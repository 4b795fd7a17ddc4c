import Mathlib.Logic.Function.Basic
import RoundTable.Proofs.Session.Ledger
import RoundTable.Proofs.Session.Rest

/-!
# Scenes

A session of which every participant makes choices of its own, and in which one task after another
has its turn: either one task is busy, or one command is under way, and all other tasks wait for
results or are over. A scene says what there is to know about such a session. Walks that are over
may be taken notice of at any time, which does not change the scene; all else that the session can
do is what the scene is about.

## Main definitions

* `Company`: participants with their choosers
* `Scene`, `Scene.Fits`: what there is to know about a session
* `Scene.Settles`: every session that the scene is about comes to rest

## Main results

* `Scene.Fits.step_cases`: what the session can do
* `Scene.settles_of_step`, `Scene.settles_of_idle`: so one step at a time is enough to consider
-/

namespace RoundTable

/-- The participant at the link that an end belongs to. -/
def LinkEnd.guest : LinkEnd → PlayerId
  | ofServer id | ofParticipant id => id

@[simp]
theorem LinkEnd.guest_opposite (place : LinkEnd) : place.opposite.guest = place.guest := by
  cases place <;> rfl

/-! ### Companies -/

/-- Participants with the ways in which they choose. -/
abbrev Company := List (PlayerId × Chooser)

namespace Company

variable (company : Company)

/-- How a participant chooses. -/
def chooser? (id : PlayerId) : Option Chooser :=
  (company.find? fun member => member.1 = id).map Prod.snd

/-- How a party carries out actions: the server at the table, and a participant by choosing. -/
def execute : Party → Executor Routine
  | .server => .atTable Routine.access
  | .participant id =>
    match company.chooser? id with
    | some chooser => .choosing (Routine.player id chooser)
    | none => Routine.crashing

/-- A session at a table with all participants. -/
def session {ρ : Type} (table : Table) : Session ρ :=
  .opened table (some (.atTable Routine.access))
    (company.map fun member => (member.1, (Mode.choosing member.2).execute? member.1))

end Company

/-! ### Scenes -/

/-- Where a call at an end of a link stands. -/
inductive Post where
  /-- There is none. -/
  | free
  /-- It has a number. -/
  | numbered (call : CallId)
  /-- It waits for its result. -/
  | waiting (call : CallId)
  /-- Its result has been handed over. -/
  | answered (call : CallId) (reply : Reply)

/-- The slot of an end at which a call stands; the next call of the party has the given number. -/
structure Slot.Holds (next : Nat) (slot : Slot) (post : Post) : Prop where
  handed : ∀ entry ∈ slot.handed, entry.1.number < next
  fits : match post with
    | .free => slot.live? = none
    | .numbered call =>
      slot.live? = none ∧ call.number < next ∧ ∀ entry ∈ slot.handed, entry.1 ≠ call
    | .waiting call =>
      slot.waiter = some ⟨call, true⟩ ∧ call.number < next ∧ ∀ entry ∈ slot.handed, entry.1 ≠ call
    | .answered call reply => slot.live? = none ∧ slot.answer? call = some (.ok reply)

/-- What there is to know about a session in which one task after another has its turn. -/
structure Scene (ρ : Type) where
  /-- The table. -/
  table : Table
  /-- Where the calls stand. -/
  post : LinkEnd → Post
  /-- The command that is under way, and where it has arrived. -/
  letter : Option (LinkEnd × Command)
  /-- The task that is busy. -/
  busy : Option (Task ρ)
  /-- The tasks that wait for results. -/
  waiting : List (Task ρ)
  /-- How jobs have ended. -/
  ends : List (Nat × JobEnd ρ)
  /-- The party whose router has stopped, or is about to, because of a failure. -/
  doomed : Option Party

variable {ρ : Type} {company : Company} {scene : Scene ρ} {session after : Session ρ}
  {P : Session ρ → Prop}

/-- A task that waits for the result of a call. -/
def Task.Awaits (post : LinkEnd → Post) (task : Task ρ) : Prop :=
  ∃ place call goOn, task.activity.question? = some ⟨.await place call, goOn⟩ ∧
    post place = .waiting call

/-- A walk that is over, and does not matter to its router unless that is doomed. -/
def Task.IsOver (doomed : Option Party) (task : Task ρ) : Prop :=
  task.pending = none ∧ ∃ router result, task.activity = .walk router (Interaction.done result) ∧
    ∀ failure, result = .error failure → failure.isFatal = true → doomed = some router

/-- Whether there is nothing left to do but to take notice of the end. -/
def Activity.isOver : Activity ρ → Bool
  | walk _ (Interaction.done _) | walk _ (Interaction.ask .crash _) => true
  | _ => false

/-- A station is as it should be, unless its party is doomed. -/
structure Station.Fits (company : Company) (doomed : Option Party) (party : Party)
    (station : Station) : Prop where
  isPresent : station.isPresent = true
  execute : station.execute = company.execute party
  isRunning : doomed = some party ∨ station.isRunning = true

/-- An end is as it should be: what has arrived there, and where a call stands, is given. -/
structure Desk.Fits (inbound : Option Command) (post : Post) (station : Station)
    (desk : Desk) : Prop where
  isListening : station.isRunning = true → desk.isListening = true
  inbound : desk.inbound = inbound
  slot : desk.slot.Holds station.nextCall post

namespace Scene

/-- The tasks that matter. -/
def tasks (scene : Scene ρ) : List (Task ρ) := scene.busy.toList ++ scene.waiting

/-- What has arrived at an end. -/
def inbound? (scene : Scene ρ) (place : LinkEnd) : Option Command :=
  (scene.letter.filter fun letter => letter.1 = place).map Prod.snd

/-- A scene makes sense: tasks wait for calls that wait, calls stand at ends that there are, and
whatever matters is not up to a party that is doomed. -/
structure IsSound (company : Company) (scene : Scene ρ) : Prop where
  awaits : ∀ task ∈ scene.waiting, task.Awaits scene.post
  linked : ∀ place, company.chooser? place.guest = none → scene.post place = .free
  seated : ∃ id, (company.chooser? id).isSome = true
  apart : (scene.tasks.map Task.id).Nodup
  mine : ∀ party ∈ scene.doomed, ∀ task ∈ scene.tasks, task.activity.isWalkOf party = false
  yours : ∀ party ∈ scene.doomed, ∀ letter ∈ scene.letter, letter.1.owner ≠ party

/-- The stations and the ends of the session are as in the scene. -/
structure FitsPlaces (company : Company) (scene : Scene ρ) (session : Session ρ) : Prop where
  table : session.table = scene.table
  ends : session.ends = scene.ends
  linked : ∀ place, (session.desk? place).isSome = (company.chooser? place.guest).isSome
  station : ∀ party station, session.station? party = some station →
    station.Fits company scene.doomed party
  desk : ∀ place desk station, session.desk? place = some desk →
    session.station? place.owner = some station →
    desk.Fits (scene.inbound? place) (scene.post place) station

/-- The tasks of the session are those of the scene, and some that are over. -/
structure FitsTasks (scene : Scene ρ) (session : Session ρ) : Prop where
  apart : (session.tasks.map Task.id).Nodup
  spawned : ∀ task ∈ session.tasks, task.id < session.spawned
  present : ∀ task ∈ scene.tasks, task ∈ session.tasks
  others : ∀ task ∈ session.tasks, task ∈ scene.tasks ∨ task.IsOver scene.doomed

/-- A session that the scene is about. -/
structure Fits (company : Company) (scene : Scene ρ) (session : Session ρ) : Prop where
  sound : scene.IsSound company
  places : scene.FitsPlaces company session
  tasks : scene.FitsTasks session

/-- However a session of the scene goes on, it comes to rest, and then `P` holds. -/
def Settles (company : Company) (P : Session ρ → Prop) (scene : Scene ρ) : Prop :=
  ∀ session, scene.Fits company session → session.Settles P

end Scene

/-! ### Tasks -/

namespace Session

theorem task?_of_mem (h : (session.tasks.map Task.id).Nodup) {task : Task ρ}
    (hmem : task ∈ session.tasks) : session.task? task.id = some task := by
  rw [task?]
  generalize session.tasks = tasks at h hmem
  induction tasks with
  | nil => cases hmem
  | cons first tasks ih =>
    obtain ⟨hfirst, hrest⟩ := List.nodup_cons.mp h
    obtain rfl | hmem := List.mem_cons.mp hmem
    · simp
    · have hne : first.id ≠ task.id := fun heq =>
        hfirst (heq ▸ List.mem_map_of_mem hmem)
      rw [List.find?_cons_of_neg (by simpa using hne)]
      exact ih hrest hmem

theorem mem_tasks_withoutTask {id : Nat} {task : Task ρ} :
    task ∈ (session.withoutTask id).tasks ↔ task ∈ session.tasks ∧ task.id ≠ id := by
  simp [withoutTask]

theorem length_withoutTask_lt {task : Task ρ} (hmem : task ∈ session.tasks) :
    (session.withoutTask task.id).tasks.length < session.tasks.length := by
  refine List.length_filter_lt_length_iff_exists.mpr ⟨task, hmem, ?_⟩
  simp

theorem join?_of_not_isOver {id : Nat} {task : Task ρ} (htask : session.task? id = some task)
    (h : task.activity.isOver = false) : session.join? id = none := by
  rw [join?, htask]
  obtain ⟨number, activity, pending⟩ := task
  cases activity with
  | job number holder routine => rfl
  | walk router routine =>
    cases routine with
    | done result => cases h
    | ask effect next => cases effect <;> first | rfl | cases h

theorem advance?_of_isOver {id : Nat} {task : Task ρ} {doomed : Option Party}
    (htask : session.task? id = some task) (h : task.IsOver doomed) :
    session.advance? id = none := by
  obtain ⟨-, router, result, hactivity, -⟩ := h
  rw [advance?, htask, Option.bind_some, hactivity]

end Session

theorem Activity.isOver_of_question? {activity : Activity ρ} {effect : Effect}
    {goOn : effect.Answer → Activity ρ} (h : activity.question? = some ⟨effect, goOn⟩)
    (hcrash : effect ≠ .crash) : activity.isOver = false := by
  cases activity with
  | job number holder routine => rfl
  | walk router routine =>
    cases routine with
    | done result => cases h
    | ask effect next =>
      cases h
      cases effect <;> first | exact absurd rfl hcrash | rfl

/-! ### Walks that are over -/

namespace Session

/-- Tasks that wait for nothing are dropped without a trace. -/
theorem dropTasks_of_pending {drops : Activity ρ → Bool}
    (h : ∀ task ∈ session.tasks, drops task.activity = true → task.pending = none) :
    session.dropTasks drops =
      { session with tasks := session.tasks.filter fun task => !drops task.activity } := by
  have hfold (tasks : List (Task ρ)) (htasks : ∀ task ∈ tasks, task.pending = none)
      (session : Session ρ) : tasks.foldl abandon session = session := by
    induction tasks with
    | nil => rfl
    | cons task tasks ih =>
      have habandon : session.abandon task = session := by
        rw [abandon, htasks task List.mem_cons_self]
      rw [List.foldl_cons, habandon]
      exact ih fun task hmem => htasks task (List.mem_cons_of_mem _ hmem)
  refine hfold _ (fun task hmem => ?_) _
  obtain ⟨hmem, hdrops⟩ := List.mem_filter.mp hmem
  exact h task hmem hdrops

end Session

namespace Scene

open Session

theorem FitsTasks.lost (h : scene.FitsTasks session) (hsub : after.tasks.Sublist session.tasks)
    (hspawned : after.spawned = session.spawned)
    (hpresent : ∀ task ∈ scene.tasks, task ∈ after.tasks) : scene.FitsTasks after where
  apart := (hsub.map Task.id).nodup h.apart
  spawned task hmem := hspawned ▸ h.spawned task (hsub.subset hmem)
  present := hpresent
  others task hmem := h.others task (hsub.subset hmem)

theorem FitsPlaces.congr (h : scene.FitsPlaces company session)
    (htable : after.table = session.table) (hends : after.ends = session.ends)
    (hdesk : ∀ place, after.desk? place = session.desk? place)
    (hstation : ∀ party, after.station? party = session.station? party) :
    scene.FitsPlaces company after where
  table := htable.trans h.table
  ends := hends.trans h.ends
  linked place := by
    rw [hdesk]
    exact h.linked place
  station party := by
    rw [hstation]
    exact h.station party
  desk place := by
    rw [hdesk, hstation]
    exact h.desk place

theorem FitsPlaces.withTasks (h : scene.FitsPlaces company session) (tasks : List (Task ρ))
    (spawned : Nat) : scene.FitsPlaces company { session with tasks, spawned } :=
  h.congr rfl rfl (fun place => by cases place <;> rfl) fun party => by cases party <;> rfl

/-- The router of the party that is doomed stops. -/
theorem FitsPlaces.shutEnds (h : scene.FitsPlaces company session) (hsound : scene.IsSound company)
    {party : Party} (hdoomed : scene.doomed = some party) (error : SessionError) :
    scene.FitsPlaces company ((session.shutEnds party).modifyStation party fun station =>
      { station with router := .ended (.error error) }) := by
  obtain ⟨htable, -, hends, -, hstations⟩ := foldl_shut (session.endsOf party) session
  refine ⟨?_, ?_, fun place => ?_, fun other station hstation => ?_,
    fun place desk station hdesk hstation => ?_⟩
  · rw [table_modifyStation]
    exact htable.trans h.table
  · rw [ends_modifyStation]
    exact hends.trans h.ends
  · rw [desk?_modifyStation, desk?_shutEnds, ← h.linked]
    split <;> simp
  · rw [station?_modifyStation] at hstation
    split at hstation
    case isTrue hother =>
      obtain ⟨earlier, hearlier, rfl⟩ := Option.map_eq_some_iff.mp hstation
      have hfits := h.station other earlier ((hstations other).symm.trans hearlier)
      exact ⟨hfits.isPresent, hfits.execute, .inl (hother ▸ hdoomed)⟩
    case isFalse => exact h.station other station ((hstations other).symm.trans hstation)
  · rw [desk?_modifyStation, desk?_shutEnds] at hdesk
    rw [station?_modifyStation] at hstation
    split at hdesk
    case isTrue howner =>
      rw [if_pos howner] at hstation
      obtain ⟨earlier, hearlier, rfl⟩ := Option.map_eq_some_iff.mp hstation
      obtain ⟨desk, hdesk', rfl⟩ := Option.map_eq_some_iff.mp hdesk
      have hfits := h.desk place desk earlier hdesk' ((hstations _).symm.trans hearlier)
      refine ⟨nofun, ?_, hfits.slot⟩
      -- what is under way is not on its way to the party that is doomed
      have hinbound : scene.inbound? place = none := by
        rw [inbound?, Option.map_eq_none_iff, Option.filter_eq_none_iff]
        intro letter hletter hplace
        refine hsound.yours party hdoomed letter hletter ?_
        rw [of_decide_eq_true hplace, howner]
      exact hinbound.symm
    case isFalse howner =>
      rw [if_neg howner] at hstation
      exact h.desk place desk station hdesk ((hstations _).symm.trans hstation)

/-- The router of the party that is doomed stops, and nothing that matters is lost. -/
theorem Fits.shutRouter (h : scene.Fits company session) {party : Party}
    (hdoomed : scene.doomed = some party) (error : SessionError) :
    scene.Fits company (session.shutRouter party (.ended (.error error))) ∧
      (session.shutRouter party (.ended (.error error))).tasks.length ≤ session.tasks.length := by
  obtain ⟨-, htasks, -, hspawned, -⟩ := foldl_shut (session.endsOf party) session
  have hshut : session.shutRouter party (.ended (.error error)) =
      { (session.shutEnds party).modifyStation party fun station =>
          { station with router := .ended (.error error) } with
        tasks := session.tasks.filter fun task => !task.activity.isWalkOf party } := by
    refine (dropTasks_of_pending fun task hmem hwalk => ?_).trans ?_
    · rw [tasks_modifyStation, htasks] at hmem
      obtain hmine | ⟨hpending, -⟩ := h.tasks.others task hmem
      · exact absurd hwalk (by simp [h.sound.mine party hdoomed task hmine])
      · exact hpending
    · rw [tasks_modifyStation, htasks]
      rfl
  rw [hshut]
  refine ⟨⟨h.sound, (h.places.shutEnds h.sound hdoomed error).withTasks _ _, ?_⟩,
    List.length_filter_le _ _⟩
  refine h.tasks.lost List.filter_sublist ?_ fun task hmem => ?_
  · exact (spawned_modifyStation _ _ _).trans hspawned
  · refine List.mem_filter.mpr ⟨h.tasks.present task hmem, ?_⟩
    simp [h.sound.mine party hdoomed task hmem]

/-- A router takes notice of the end of a walk. -/
theorem Fits.join (h : scene.Fits company session) {task : Task ρ} (hmem : task ∈ session.tasks)
    (hover : task.IsOver scene.doomed) (hapart : task ∉ scene.tasks) {router : Party}
    {result : Except Failure Unit}
    (hactivity : task.activity = .walk router (Interaction.done result)) :
    scene.Fits company ((session.withoutTask task.id).join router result) ∧
      ((session.withoutTask task.id).join router result).tasks.length < session.tasks.length := by
  have hpresent : ∀ other ∈ scene.tasks, other ∈ (session.withoutTask task.id).tasks := by
    intro other hother
    refine mem_tasks_withoutTask.mpr ⟨h.tasks.present other hother, fun heq => hapart ?_⟩
    have hfind := task?_of_mem h.tasks.apart (h.tasks.present other hother)
    rw [heq, task?_of_mem h.tasks.apart hmem] at hfind
    exact Option.some.inj hfind ▸ hother
  have hwithout : scene.Fits company (session.withoutTask task.id) :=
    ⟨h.sound, h.places.withTasks _ _, h.tasks.lost List.filter_sublist rfl hpresent⟩
  have hless := length_withoutTask_lt hmem
  rw [join.eq_def]
  cases result with
  | ok => exact ⟨hwithout, hless⟩
  | error failure =>
    dsimp only
    split
    case isFalse => exact ⟨hwithout, hless⟩
    case isTrue hfatal =>
      have hdoomed : scene.doomed = some router := by
        obtain ⟨-, other, result', hactivity', hdoomed⟩ := hover
        cases hactivity.symm.trans hactivity'
        exact hdoomed failure rfl hfatal
      obtain ⟨hfits, hle⟩ := hwithout.shutRouter hdoomed (.failed failure)
      exact ⟨hfits, Nat.lt_of_le_of_lt hle hless⟩

theorem Fits.not_mem_tasks (h : scene.Fits company session) {task : Task ρ}
    (hbusy : ∀ task ∈ scene.busy, task.activity.isOver = false) (hover : task.IsOver scene.doomed) :
    task ∉ scene.tasks := by
  obtain ⟨-, router, result, hactivity, -⟩ := hover
  intro hmem
  obtain hmem | hmem := List.mem_append.mp hmem
  · have hnot := hbusy task (Option.mem_toList.mp hmem)
    rw [hactivity] at hnot
    cases hnot
  · obtain ⟨place, call, goOn, hquestion, -⟩ := h.sound.awaits task hmem
    rw [hactivity] at hquestion
    cases hquestion

/-- Nobody hears of a result before it has been handed over. -/
theorem Fits.advance?_of_waiting (h : scene.Fits company session) {task : Task ρ}
    (hmem : task ∈ scene.waiting) : session.advance? task.id = none := by
  obtain ⟨place, call, goOn, hquestion, hpost⟩ := h.sound.awaits task hmem
  have htask := task?_of_mem h.tasks.apart
    (h.tasks.present task (List.mem_append_right _ hmem))
  rw [advance?_of_question? htask hquestion nofun, answer?, Option.map_eq_none_iff]
  have hlinked : (session.desk? place).isSome = true := by
    rw [h.places.linked]
    cases hchooser : company.chooser? place.guest with
    | some chooser => rfl
    | none => exact absurd (hpost.symm.trans (h.sound.linked place hchooser)) nofun
  obtain ⟨desk, hdesk⟩ := Option.isSome_iff_exists.mp hlinked
  obtain ⟨station, hstation⟩ :=
    Option.isSome_iff_exists.mp (isSome_station?_owner session place hlinked)
  have hslot := (h.places.desk place desk station hdesk hstation).slot
  rw [hpost] at hslot
  obtain ⟨-, hwaiter, -, hunheard⟩ := hslot
  have hanswer : desk.slot.answer? call = none := by
    have hfind : desk.slot.handed.find? (fun entry => entry.1 = call) = none :=
      List.find?_eq_none.mpr fun entry hentry => by simpa using hunheard entry hentry
    simp [Slot.answer?, hfind, Slot.live?, hwaiter, Option.filter]
  simp [perform?, hdesk, hanswer]

/-- Nobody hangs up as long as everybody is there. -/
theorem Fits.hangUp?_eq_none (h : scene.Fits company session) {place : LinkEnd} :
    session.hangUp? place = none := by
  rw [hangUp?]
  cases hdesk : session.desk? place with
  | none => rfl
  | some desk =>
    have hlinked : (session.desk? place.opposite).isSome = true := by
      rw [h.places.linked, LinkEnd.guest_opposite, ← h.places.linked, hdesk]
      rfl
    obtain ⟨station, hstation⟩ :=
      Option.isSome_iff_exists.mp (isSome_station?_owner session _ hlinked)
    have hspeaks : session.speaks place.opposite = true := by
      rw [speaks, hstation, Option.any_some, (h.places.station _ station hstation).isPresent]
      rfl
    simp [hspeaks]

/-- No router stops as long as it has somebody to listen to. -/
theorem Fits.stop?_eq_none (h : scene.Fits company session) {party : Party} :
    session.stop? party = none := by
  rw [stop?]
  cases hrouting : session.isRouting party with
  | false => rfl
  | true =>
    obtain ⟨station, hstation, hrunning⟩ := (Option.any_eq_true _ _).mp hrouting
    have hend : ∃ place, place.owner = party ∧ (session.desk? place).isSome = true := by
      cases party with
      | server =>
        obtain ⟨id, hid⟩ := h.sound.seated
        exact ⟨.ofServer id, rfl, (h.places.linked (.ofServer id)).trans hid⟩
      | participant id =>
        obtain ⟨link, hlink, -⟩ := Option.map_eq_some_iff.mp hstation
        exact ⟨.ofParticipant id, rfl, by simp [desk?, hlink]⟩
    obtain ⟨place, rfl, hdesk⟩ := hend
    have hmem := mem_endsOf.mpr ⟨rfl, hdesk⟩
    obtain ⟨desk, hdesk⟩ := Option.isSome_iff_exists.mp hdesk
    have hlistens := (h.places.desk place desk station hdesk hstation).isListening hrunning
    have hany : ((session.endsOf place.owner).any fun place =>
        (session.desk? place).any Desk.isListening) = true :=
      List.any_eq_true.mpr ⟨place, hmem, by simp [hdesk, hlistens]⟩
    simp [hany]

/-- **What a session of a scene can do.** -/
theorem Fits.step_cases (h : scene.Fits company session) {label : Session.Label}
    (hstep : session.step? label = some after)
    (hbusy : ∀ task ∈ scene.busy, task.activity.isOver = false) :
    (∃ task ∈ scene.busy, label = .advance task.id) ∨
      (∃ letter ∈ scene.letter, label = .receive letter.1) ∨
      (scene.Fits company after ∧ after.tasks.length < session.tasks.length) := by
  cases label with
  | advance id =>
    obtain ⟨task, htask, -⟩ := Option.bind_eq_some_iff.mp hstep
    obtain ⟨hmem, rfl⟩ := mem_of_task? htask
    obtain hmem | hover := h.tasks.others task hmem
    · obtain hmem | hmem := List.mem_append.mp hmem
      · exact .inl ⟨task, Option.mem_toList.mp hmem, rfl⟩
      · exact absurd ((h.advance?_of_waiting hmem).symm.trans hstep) nofun
    · exact absurd ((advance?_of_isOver htask hover).symm.trans hstep) nofun
  | join id =>
    have hstep' := hstep
    obtain ⟨task, htask, hjoin⟩ := Option.bind_eq_some_iff.mp hstep'
    obtain ⟨hmem, rfl⟩ := mem_of_task? htask
    obtain hmem | hover := h.tasks.others task hmem
    · have hnot : task.activity.isOver = false := by
        obtain hmem | hmem := List.mem_append.mp hmem
        · exact hbusy task (Option.mem_toList.mp hmem)
        · obtain ⟨place, call, goOn, hquestion, -⟩ := h.sound.awaits task hmem
          exact Activity.isOver_of_question? hquestion nofun
      exact absurd ((join?_of_not_isOver htask hnot).symm.trans hstep) nofun
    · obtain ⟨-, router, result, hactivity, -⟩ := id hover
      rw [hactivity] at hjoin
      cases hjoin
      exact .inr (.inr (h.join hmem hover (h.not_mem_tasks hbusy hover) hactivity))
  | receive place =>
    obtain ⟨station, hstation, hstep⟩ := Option.bind_eq_some_iff.mp hstep
    obtain ⟨desk, hdesk, hstep⟩ := Option.bind_eq_some_iff.mp hstep
    obtain ⟨command, hinbound, -⟩ := Option.bind_eq_some_iff.mp hstep
    rw [(h.places.desk place desk station hdesk hstation).inbound] at hinbound
    obtain ⟨letter, hletter, -⟩ := Option.map_eq_some_iff.mp hinbound
    obtain ⟨hletter, hplace⟩ := Option.filter_eq_some_iff.mp hletter
    exact .inr (.inl ⟨letter, hletter, by rw [of_decide_eq_true hplace]⟩)
  | hangUp place => exact absurd (h.hangUp?_eq_none.symm.trans hstep) nofun
  | stop party => exact absurd (h.stop?_eq_none.symm.trans hstep) nofun

/-! ### One step at a time -/

/-- A scene in which one step is possible. -/
theorem settles_of_step (label : Session.Label)
    (hbusy : ∀ task ∈ scene.busy, task.activity.isOver = false)
    (hothers : (∀ task ∈ scene.busy, label = .advance task.id) ∧
      ∀ letter ∈ scene.letter, label = .receive letter.1)
    (h : ∀ session, scene.Fits company session →
      ∃ after, session.step? label = some after ∧ after.Settles P) : scene.Settles company P := by
  intro session hfits
  induction hlength : session.tasks.length using Nat.strongRecOn generalizing session with
  | ind n ih =>
    obtain ⟨after, hafter, hsettles⟩ := h session hfits
    refine ⟨fun hrest => absurd ((hrest label).symm.trans hafter) nofun,
      fun other another hanother => ?_⟩
    obtain ⟨task, htask, rfl⟩ | ⟨letter, hletter, rfl⟩ | ⟨hfits', hless⟩ :=
      hfits.step_cases hanother hbusy
    · rw [← hothers.1 task htask, hafter] at hanother
      exact Option.some.inj hanother ▸ hsettles
    · rw [← hothers.2 letter hletter, hafter] at hanother
      exact Option.some.inj hanother ▸ hsettles
    · exact ih _ (hlength ▸ hless) another hfits' rfl

/-- A scene in which nothing is left to do. -/
theorem settles_of_idle (hbusy : scene.busy = none) (hletter : scene.letter = none)
    (h : ∀ session, scene.Fits company session → P session) : scene.Settles company P := by
  intro session hfits
  induction hlength : session.tasks.length using Nat.strongRecOn generalizing session with
  | ind n ih =>
    refine ⟨fun _ => h session hfits, fun label after hstep => ?_⟩
    obtain ⟨task, htask, -⟩ | ⟨letter, hletter', -⟩ | ⟨hfits', hless⟩ :=
      hfits.step_cases hstep (by simp [hbusy])
    · simp [hbusy] at htask
    · simp [hletter] at hletter'
    · exact ih _ (hlength ▸ hless) after hfits' rfl

end Scene

end RoundTable
