import RoundTable.Proofs.Session.Scenes

/-!
# Turns

What comes of the questions that the busy task of a scene asks. A look at the table or an event is
answered at once. A call goes through a scene for each of its stages: the busy task takes a number,
registers, and sends the action; the other side starts a walk, which is busy next; the walk sends
the result back and is over; and the task that has called is busy again.

## Main definitions

* `Capacity`, `Scene.turn`: a task that has its turn, as a walk or as a job
* `Company.local?`: the answers that do not take another party

## Main results

* `Scene.settles_local`: looks and events
* `Scene.settles_number`, `Scene.settles_register`, `Scene.settles_delegate`,
  `Scene.settles_delegated`, `Scene.settles_result`, `Scene.settles_resulted`,
  `Scene.settles_await`: the stages of a call
* `Scene.settles_jobDone`: the end of a job
-/

namespace RoundTable

open Function (update)

/-! ### Capacities -/

/-- A walk or a job, whatever it does. -/
inductive Capacity (ρ : Type) : Type → Type where
  /-- A walk of a router. -/
  | walk (router : Party) : Capacity ρ (Except Failure Unit)
  /-- A job of somebody. -/
  | job (number : Nat) (holder : Party) : Capacity ρ ρ

variable {ρ α β : Type} {company : Company} {scene scene' : Scene ρ} {session middle : Session ρ}
  {P : Session ρ → Prop} {task later : Task ρ}
  {id : Nat} {pending : Option (LinkEnd × CallId)} {place : LinkEnd} {call : CallId}

namespace Capacity

/-- A routine in the capacity. -/
def act : Capacity ρ β → Routine β → Activity ρ
  | walk router, routine => .walk router routine
  | job number holder, routine => .job number holder routine

/-- Whether it is that of a walk of the given router. -/
def isWalkOf (party : Party) : Capacity ρ β → Bool
  | walk router => router = party
  | job _ _ => false

@[simp]
theorem isWalkOf_act (capacity : Capacity ρ β) (routine : Routine β) (party : Party) :
    (capacity.act routine).isWalkOf party = capacity.isWalkOf party := by
  cases capacity <;> rfl

@[simp]
theorem question?_act (capacity : Capacity ρ β) (effect : Effect)
    (next : effect.Answer → Routine β) :
    (capacity.act (Interaction.ask effect next)).question? =
      some ⟨effect, fun answer => capacity.act (next answer)⟩ := by
  cases capacity <;> rfl

end Capacity

/-! ### Questions of the busy task -/

theorem Task.IsOver.of_none {doomed : Option Party} (h : task.IsOver none) :
    task.IsOver doomed := by
  obtain ⟨hpending, router, result, hactivity, hdoomed⟩ := h
  exact ⟨hpending, router, result, hactivity, fun failure heq hfatal =>
    absurd (hdoomed failure heq hfatal) nofun⟩

namespace Scene

open Session

/-- What becomes of the tasks of a scene when the busy one goes on: it is still there, or it is
over. -/
structure GoesOn (scene : Scene ρ) (later : Task ρ) (scene' : Scene ρ) : Prop where
  tasks : scene'.tasks = later :: scene.waiting ∨
    scene'.tasks = scene.waiting ∧ later.IsOver scene'.doomed
  doomed : scene.doomed = none ∨ scene'.doomed = scene.doomed

/-- The numbers of tasks stay apart when a task with another number is queued. -/
theorem nodup_queueTask (h : (session.tasks.map Task.id).Nodup)
    (hnew : ∀ task ∈ session.tasks, task.id ≠ later.id) :
    ((session.queueTask later).tasks.map Task.id).Nodup := by
  rw [queueTask, List.map_append, List.nodup_append]
  refine ⟨h, List.nodup_cons.mpr ⟨List.not_mem_nil, .nil⟩, fun number hnumber other hother => ?_⟩
  obtain ⟨task, hmem, rfl⟩ := List.mem_map.mp hnumber
  rw [List.mem_singleton.mp hother]
  exact hnew task hmem

theorem FitsTasks.goOn (h : scene.FitsTasks session) (hbusy : scene.busy = some task)
    (hapart : (scene.tasks.map Task.id).Nodup) (hid : later.id = task.id)
    (hgoesOn : scene.GoesOn later scene') (hmiddle : middle.tasks = session.tasks)
    (hspawned : middle.spawned = session.spawned) :
    scene'.FitsTasks ((middle.withoutTask task.id).queueTask later) := by
  have htasks : scene.tasks = task :: scene.waiting := by rw [tasks, hbusy]; rfl
  rw [htasks, List.map_cons, List.nodup_cons] at hapart
  have hold (other : Task ρ) : other ∈ (middle.withoutTask task.id).tasks ↔
      other ∈ session.tasks ∧ other.id ≠ task.id := by
    rw [mem_tasks_withoutTask, hmiddle]
  have hnew (other : Task ρ) :
      other ∈ ((middle.withoutTask task.id).queueTask later).tasks ↔
        (other ∈ session.tasks ∧ other.id ≠ task.id) ∨ other = later := by
    rw [queueTask, List.mem_append, List.mem_singleton, hold]
  have hwaiting (other : Task ρ) (hother : other ∈ scene.waiting) :
      other ∈ session.tasks ∧ other.id ≠ task.id := by
    refine ⟨h.present other (by rw [htasks]; exact List.mem_cons_of_mem _ hother), fun heq => ?_⟩
    exact hapart.1 (heq ▸ List.mem_map_of_mem hother)
  refine ⟨?_, fun other hother => ?_, fun other hother => ?_, fun other hother => ?_⟩
  · have hsub : ((middle.withoutTask task.id).tasks.map Task.id).Sublist
        (session.tasks.map Task.id) := by
      rw [← hmiddle]
      exact List.filter_sublist.map Task.id
    refine nodup_queueTask (hsub.nodup h.apart) fun old hmem => ?_
    rw [hid]
    exact ((hold old).mp hmem).2
  · rw [show ((middle.withoutTask task.id).queueTask later).spawned = session.spawned from
      hspawned]
    obtain hother | rfl := (hnew other).mp hother
    · exact h.spawned other hother.1
    · rw [hid]
      exact h.spawned task (h.present task (by rw [htasks]; exact List.mem_cons_self))
  · rw [hnew]
    obtain heq | ⟨heq, -⟩ := hgoesOn.tasks
    · rw [heq] at hother
      obtain rfl | hother := List.mem_cons.mp hother
      · exact .inr rfl
      · exact .inl (hwaiting other hother)
    · rw [heq] at hother
      exact .inl (hwaiting other hother)
  · obtain ⟨hmem, hne⟩ | rfl := (hnew other).mp hother
    · obtain hmine | hover := h.others other hmem
      · rw [htasks] at hmine
        obtain rfl | hmine := List.mem_cons.mp hmine
        · exact absurd rfl hne
        · refine .inl ?_
          obtain heq | ⟨heq, -⟩ := hgoesOn.tasks <;> rw [heq]
          · exact List.mem_cons_of_mem _ hmine
          · exact hmine
      · refine .inr ?_
        obtain hnone | hsame := hgoesOn.doomed
        · rw [hnone] at hover
          exact hover.of_none
        · rwa [hsame]
    · obtain heq | ⟨-, hover⟩ := hgoesOn.tasks
      · exact .inl (heq ▸ List.mem_cons_self)
      · exact .inr hover

/-- The busy task asks a question, and the scene goes on with the answer. -/
theorem settles_of_question (hbusy : scene.busy = some task) (hletter : scene.letter = none)
    {effect : Effect} {goOn : effect.Answer → Activity ρ}
    (hquestion : task.activity.question? = some ⟨effect, goOn⟩) (hcrash : effect ≠ .crash)
    (h : ∀ session, scene.Fits company session → ∃ middle answer scene',
      session.perform? effect = some (middle, answer) ∧ scene'.FitsPlaces company middle ∧
      scene'.IsSound company ∧
      scene.GoesOn ⟨task.id, goOn answer, pendingAfter task.pending effect answer⟩ scene' ∧
      scene'.Settles company P) : scene.Settles company P := by
  have hover := Activity.isOver_of_question? hquestion hcrash
  refine settles_of_step (.advance task.id) ?_ ⟨?_, ?_⟩ fun session hfits => ?_
  · rw [hbusy]
    rintro _ ⟨⟩
    exact hover
  · rw [hbusy]
    rintro _ ⟨⟩
    rfl
  · rw [hletter]
    exact fun letter h => absurd h (Option.not_mem_none letter)
  · obtain ⟨middle, answer, scene', hperform, hplaces, hsound, hgoesOn, hsettles⟩ :=
      h session hfits
    have hmem : task ∈ session.tasks := hfits.tasks.present task (by simp [tasks, hbusy])
    have htask := task?_of_mem hfits.tasks.apart hmem
    refine ⟨(middle.withoutTask task.id).queueTask
      ⟨task.id, goOn answer, pendingAfter task.pending effect answer⟩, ?_, ?_⟩
    · refine (advance?_of_question? htask hquestion hcrash).trans ?_
      rw [answer?, perform?_withoutTask, hperform]
      rfl
    · refine hsettles _ ⟨hsound, hplaces.withTasks _ _, ?_⟩
      exact hfits.tasks.goOn hbusy hfits.sound.apart rfl hgoesOn (keeps_perform? hperform).1
        (keeps_perform? hperform).2.1

/-! ### Turns -/

/-- The scene in which a routine has its turn. -/
def turn (scene : Scene ρ) (capacity : Capacity ρ β) (id : Nat)
    (pending : Option (LinkEnd × CallId)) (routine : Routine β) : Scene ρ :=
  { scene with busy := some ⟨id, capacity.act routine, pending⟩, letter := none }

variable {capacity : Capacity ρ β} {pending' : Option (LinkEnd × CallId)}
  {routine routine' : Routine β}

/-- Where calls stand changes at one end at most, and nobody waits there. -/
def Reposts (company : Company) (scene scene' : Scene ρ) : Prop :=
  scene'.post = scene.post ∨ ∃ place new, (company.chooser? place.guest).isSome = true ∧
    (∀ call, scene.post place ≠ .waiting call) ∧ scene'.post = update scene.post place new

theorem Reposts.awaits (h : scene.Reposts company scene') (hawaits : task.Awaits scene.post) :
    task.Awaits scene'.post := by
  obtain hsame | ⟨place, new, -, hpost, hsame⟩ := h
  · rwa [hsame]
  · obtain ⟨other, call, goOn, hquestion, hother⟩ := hawaits
    refine ⟨other, call, goOn, hquestion, ?_⟩
    rw [hsame, Function.update_of_ne _ _ _, hother]
    rintro rfl
    exact hpost call hother

theorem linked_update {post : LinkEnd → Post}
    (hlinked : ∀ place, company.chooser? place.guest = none → post place = .free)
    (hplace : (company.chooser? place.guest).isSome = true) (new : Post) {other : LinkEnd}
    (hother : company.chooser? other.guest = none) : update post place new other = .free := by
  rw [Function.update_of_ne _ _ _]
  · exact hlinked other hother
  · rintro rfl
    rw [hother] at hplace
    cases hplace

theorem Reposts.linked (h : scene.Reposts company scene')
    (hlinked : ∀ place, company.chooser? place.guest = none → scene.post place = .free)
    {other : LinkEnd} (hother : company.chooser? other.guest = none) :
    scene'.post other = .free := by
  obtain hsame | ⟨place, new, hplace, -, hsame⟩ := h
  · rw [hsame]
    exact hlinked other hother
  · rw [hsame]
    exact linked_update hlinked hplace new hother

theorem IsSound.turn (h : (scene.turn capacity id pending routine).IsSound company)
    (hwaiting : scene'.waiting = scene.waiting) (hdoomed : scene'.doomed = scene.doomed)
    (hreposts : scene.Reposts company scene') :
    (scene'.turn capacity id pending' routine').IsSound company where
  awaits task hmem := hreposts.awaits (h.awaits task (hwaiting ▸ hmem))
  linked place hplace := hreposts.linked h.linked hplace
  seated := h.seated
  apart := by
    have hapart := h.apart
    simp only [tasks, Scene.turn, Option.toList_some, List.singleton_append, List.map_cons,
      hwaiting] at hapart ⊢
    exact hapart
  mine party hparty task hmem := by
    have hmine := h.mine party (hdoomed ▸ hparty)
    simp only [tasks, Scene.turn, Option.toList_some, List.singleton_append, List.forall_mem_cons,
      hwaiting, Capacity.isWalkOf_act] at hmine hmem ⊢
    obtain rfl | hmem := List.mem_cons.mp hmem
    · simpa using hmine.1
    · exact hmine.2 task hmem
  yours party _ letter hletter := absurd hletter (Option.not_mem_none letter)

/-- The busy task goes on with the answer to a question. -/
theorem settles_turn {effect : Effect} {next : effect.Answer → Routine β} (hcrash : effect ≠ .crash)
    (h : ∀ session,
      (scene.turn capacity id pending (Interaction.ask effect next)).Fits company session →
      ∃ middle answer, ∃ scene' : Scene ρ, session.perform? effect = some (middle, answer) ∧
        (scene'.turn capacity id (pendingAfter pending effect answer) (next answer)).FitsPlaces
          company middle ∧
        scene'.waiting = scene.waiting ∧ scene'.doomed = scene.doomed ∧
        scene.Reposts company scene' ∧
        (scene'.turn capacity id (pendingAfter pending effect answer) (next answer)).Settles
          company P) :
    (scene.turn capacity id pending (Interaction.ask effect next)).Settles company P := by
  refine settles_of_question rfl rfl (Capacity.question?_act capacity effect next) hcrash ?_
  intro session hfits
  obtain ⟨middle, answer, scene', hperform, hplaces, hwaiting, hdoomed, hreposts, hsettles⟩ :=
    h session hfits
  exact ⟨middle, answer, _, hperform, hplaces,
    hfits.sound.turn hwaiting hdoomed hreposts,
    ⟨.inl (congrArg (List.cons _) hwaiting), .inr hdoomed⟩, hsettles⟩

end Scene

/-! ### Looks and events -/

/-- What comes of a question that does not take another party. -/
def Company.local? (company : Company) (table : Table) :
    (effect : Effect) → Option (Table × effect.Answer)
  | .observe => some (table, table.state)
  | .apply event => some (table.apply event)
  | .applyOr preferred fallback => some (table.applyOr preferred fallback)
  | .confirm => some (table, ())
  | .isLinked id => some (table, (company.chooser? id).isSome)
  | _ => none

namespace Scene

open Session

variable {capacity : Capacity ρ β}

theorem FitsPlaces.perform?_of_local? (h : scene.FitsPlaces company session) {effect : Effect}
    {table : Table} {answer : effect.Answer}
    (hlocal : company.local? scene.table effect = some (table, answer)) :
    session.perform? effect = some ({ session with table }, answer) := by
  rw [← h.table] at hlocal
  cases effect with
  | observe | apply | applyOr | confirm =>
    cases hlocal
    rfl
  | isLinked id =>
    cases hlocal
    have hlinked : (session.link? id).isSome = (company.chooser? id).isSome := by
      refine Eq.trans ?_ (h.linked (.ofServer id))
      rw [desk?, Option.isSome_map]
    rw [perform?, hlinked]
  | _ => cases hlocal

theorem settles_local {effect : Effect} (next : effect.Answer → Routine β) {table : Table}
    {answer : effect.Answer} (hlocal : company.local? scene.table effect = some (table, answer))
    (hnext : ({ scene with table }.turn capacity id none (next answer)).Settles company P) :
    (scene.turn capacity id none (Interaction.ask effect next)).Settles company P := by
  have hpending : pendingAfter none effect answer = none := by
    cases effect <;> first | rfl | cases hlocal
  refine settles_turn (by rintro rfl; cases hlocal) fun session hfits => ?_
  refine ⟨_, answer, { scene with table }, hfits.places.perform?_of_local? hlocal, ?_, rfl, rfl,
    .inl rfl, ?_⟩
  · have hplaces := hfits.places
    refine ⟨rfl, hplaces.ends, fun place => ?_, fun party => ?_, fun place => ?_⟩
    · refine Eq.trans ?_ (hplaces.linked place)
      cases place <;> rfl
    · have hstation := hplaces.station party
      cases party <;> exact hstation
    · have hdesk := hplaces.desk place
      cases place <;> exact hdesk
  · rw [hpending]
    exact hnext

end Scene

/-! ### Stages of a call -/

theorem Slot.Holds.mono {next next' : Nat} {slot : Slot} {post : Post} (h : slot.Holds next post)
    (hle : next ≤ next') : slot.Holds next' post := by
  obtain ⟨hhanded, hfits⟩ := h
  refine ⟨fun entry hentry => Nat.lt_of_lt_of_le (hhanded entry hentry) hle, ?_⟩
  cases post with
  | free | answered => exact hfits
  | numbered | waiting => exact ⟨hfits.1, Nat.lt_of_lt_of_le hfits.2.1 hle, hfits.2.2⟩

/-- A number that has not been given out yet. -/
theorem Slot.Holds.number {next : Nat} {slot : Slot} (h : slot.Holds next .free) :
    slot.Holds (next + 1) (.numbered ⟨next⟩) := by
  refine ⟨(h.mono (Nat.le_succ next)).handed, h.fits, Nat.lt_succ_self next,
    fun entry hentry heq => ?_⟩
  exact absurd (h.handed entry hentry) (by simp [heq])

theorem Slot.Holds.register {next : Nat} {slot : Slot} (h : slot.Holds next (.numbered call)) :
    slot.register call = .ok { slot with waiter := some ⟨call, true⟩ } ∧
      Holds next { slot with waiter := some ⟨call, true⟩ } (.waiting call) := by
  obtain ⟨hhanded, hlive, hlt, hunheard⟩ := h
  exact ⟨by rw [Slot.register, hlive], hhanded, rfl, hlt, hunheard⟩

theorem Slot.Holds.deliver {next : Nat} {slot : Slot} (h : slot.Holds next (.waiting call))
    (value : Reply) : (slot.deliver call value).1.Holds next (.answered call value) := by
  obtain ⟨hhanded, hwaiter, hlt, hunheard⟩ := h
  have hdeliver : (slot.deliver call value).1 = ⟨none, slot.handed ++ [(call, value)]⟩ := by
    simp [Slot.deliver, hwaiter]
  have hfind : slot.handed.find? (fun entry => entry.1 = call) = none :=
    List.find?_eq_none.mpr fun entry hentry => by simpa using hunheard entry hentry
  rw [hdeliver]
  refine ⟨fun entry hentry => ?_, rfl, ?_⟩
  · obtain hentry | hentry := List.mem_append.mp hentry
    · exact hhanded entry hentry
    · rw [List.mem_singleton.mp hentry]
      exact hlt
  · simp [Slot.answer?, List.find?_append, hfind]

namespace Scene

open Session

variable {capacity : Capacity ρ β} {pending : Option (LinkEnd × CallId)} {command : Command}

/-- What has changed shows at the ends only. -/
theorem FitsPlaces.mono (h : scene.FitsPlaces company session) (htable : scene'.table = scene.table)
    (hends : scene'.ends = scene.ends) (hdoomed : scene'.doomed = scene.doomed)
    (hdesk : ∀ place desk station, session.desk? place = some desk →
      session.station? place.owner = some station →
      desk.Fits (scene.inbound? place) (scene.post place) station →
      desk.Fits (scene'.inbound? place) (scene'.post place) station) :
    scene'.FitsPlaces company session where
  table := h.table.trans htable.symm
  ends := h.ends.trans hends.symm
  linked := h.linked
  station party station hstation := hdoomed ▸ h.station party station hstation
  desk place desk station hdesk' hstation :=
    hdesk place desk station hdesk' hstation (h.desk place desk station hdesk' hstation)

/-- What has changed shows at one end only. -/
theorem FitsPlaces.modifyDesk (h : scene.FitsPlaces company session) {change : Desk → Desk}
    (htable : scene'.table = scene.table) (hends : scene'.ends = scene.ends)
    (hdoomed : scene'.doomed = scene.doomed)
    (hself : ∀ desk station, session.desk? place = some desk →
      session.station? place.owner = some station →
      desk.Fits (scene.inbound? place) (scene.post place) station →
      (change desk).Fits (scene'.inbound? place) (scene'.post place) station)
    (hothers : ∀ other, other ≠ place →
      scene'.inbound? other = scene.inbound? other ∧ scene'.post other = scene.post other) :
    scene'.FitsPlaces company (session.modifyDesk place change) where
  table := (table_modifyDesk session place change).trans (h.table.trans htable.symm)
  ends := (ends_modifyDesk session place change).trans (h.ends.trans hends.symm)
  linked other := by
    rw [← h.linked, desk?_modifyDesk]
    split <;> simp
  station party station hstation := by
    rw [station?_modifyDesk] at hstation
    exact hdoomed ▸ h.station party station hstation
  desk other desk station hdesk hstation := by
    rw [station?_modifyDesk] at hstation
    rw [desk?_modifyDesk] at hdesk
    split at hdesk
    case isTrue heq =>
      subst heq
      obtain ⟨earlier, hearlier, rfl⟩ := Option.map_eq_some_iff.mp hdesk
      exact hself earlier station hearlier hstation (h.desk other earlier station hearlier hstation)
    case isFalse hne =>
      rw [(hothers other hne).1, (hothers other hne).2]
      exact h.desk other desk station hdesk hstation

theorem FitsPlaces.exists_desk (h : scene.FitsPlaces company session)
    (hplace : (company.chooser? place.guest).isSome = true) :
    ∃ desk station, session.desk? place = some desk ∧
      session.station? place.owner = some station ∧
      desk.Fits (scene.inbound? place) (scene.post place) station ∧
      station.Fits company scene.doomed place.owner := by
  rw [← h.linked] at hplace
  obtain ⟨desk, hdesk⟩ := Option.isSome_iff_exists.mp hplace
  obtain ⟨station, hstation⟩ :=
    Option.isSome_iff_exists.mp (isSome_station?_owner session place hplace)
  exact ⟨desk, station, hdesk, hstation, h.desk place desk station hdesk hstation,
    h.station _ station hstation⟩

/-- The places fit when a number has been given out for a call. -/
theorem FitsPlaces.number {station : Station} (h : scene.FitsPlaces company session)
    (hpost : scene.post place = .free)
    (hstation : session.station? place.owner = some station) :
    ({ scene with post := update scene.post place (.numbered ⟨station.nextCall⟩) } :
      Scene ρ).FitsPlaces company (session.modifyStation place.owner fun station =>
        { station with nextCall := station.nextCall + 1 }) := by
  refine ⟨?_, ?_, fun other => ?_, fun party station' hstation' => ?_,
    fun other desk station' hdesk hstation' => ?_⟩
  · exact (table_modifyStation session _ _).trans h.table
  · exact (ends_modifyStation session _ _).trans h.ends
  · rw [desk?_modifyStation]
    exact h.linked other
  · rw [station?_modifyStation] at hstation'
    split at hstation'
    case isTrue =>
      obtain ⟨earlier, hearlier, rfl⟩ := Option.map_eq_some_iff.mp hstation'
      have hfits := h.station party earlier hearlier
      exact ⟨hfits.isPresent, hfits.execute, hfits.isRunning⟩
    case isFalse => exact h.station party station' hstation'
  · rw [desk?_modifyStation] at hdesk
    rw [station?_modifyStation] at hstation'
    split at hstation'
    case isTrue howner =>
      obtain ⟨earlier, hearlier, rfl⟩ := Option.map_eq_some_iff.mp hstation'
      have hfits := h.desk other desk earlier hdesk hearlier
      refine ⟨hfits.isListening, hfits.inbound, ?_⟩
      have hslot : desk.slot.Holds earlier.nextCall (scene.post other) := hfits.slot
      cases (howner ▸ hstation).symm.trans hearlier
      by_cases hsame : other = place
      · subst hsame
        rw [hpost] at hslot
        simp only [Function.update_self]
        exact hslot.number
      · simp only [Function.update_of_ne hsame]
        exact hslot.mono (Nat.le_succ _)
    case isFalse howner =>
      have hsame : other ≠ place := fun heq => howner (congrArg _ heq)
      have hfits := h.desk other desk station' hdesk hstation'
      refine ⟨hfits.isListening, hfits.inbound, ?_⟩
      simp only [Function.update_of_ne hsame]
      exact hfits.slot

/-- A call takes a number. -/
theorem settles_number {next : CallId → Routine β}
    (hplace : (company.chooser? place.guest).isSome = true) (hpost : scene.post place = .free)
    (hnext : ∀ call, ({ scene with post := update scene.post place (.numbered call) }.turn capacity
      id none (next call)).Settles company P) :
    (scene.turn capacity id none (Interaction.ask (.number place.owner) next)).Settles
      company P := by
  refine settles_turn nofun fun session hfits => ?_
  obtain ⟨-, station, -, hstation, -, -⟩ := hfits.places.exists_desk hplace
  have hperform : session.perform? (.number place.owner) =
      some (session.modifyStation place.owner fun station =>
        { station with nextCall := station.nextCall + 1 }, ⟨station.nextCall⟩) := by
    simp [perform?, hstation]
  refine ⟨_, _, { scene with post := update scene.post place (.numbered ⟨station.nextCall⟩) },
    hperform, ?_, rfl, rfl, .inr ⟨place, _, hplace, ?_, rfl⟩, hnext _⟩
  · exact (hfits.places.number hpost hstation).mono rfl rfl rfl fun _ _ _ _ _ h => h
  · exact fun call hcall => by cases hpost.symm.trans hcall

/-- A call that has its number registers. -/
theorem settles_register {next : Except Failure Unit → Routine β}
    (hplace : (company.chooser? place.guest).isSome = true)
    (hpost : scene.post place = .numbered call)
    (hnext : ({ scene with post := update scene.post place (.waiting call) }.turn capacity id
      (some (place, call)) (next (.ok ()))).Settles company P) :
    (scene.turn capacity id none (Interaction.ask (.register place call) next)).Settles
      company P := by
  refine settles_turn nofun fun session hfits => ?_
  obtain ⟨desk, station, hdesk, hstation, hfits', -⟩ := hfits.places.exists_desk hplace
  have hslot : desk.slot.Holds station.nextCall (.numbered call) := hpost ▸ hfits'.slot
  have hperform : session.perform? (.register place call) =
      some (session.modifySlot place fun _ => { desk.slot with waiter := some ⟨call, true⟩ },
        .ok ()) := by
    simp only [perform?, Session.register, hdesk, hslot.register.1]
  refine ⟨_, .ok (), { scene with post := update scene.post place (.waiting call) }, hperform, ?_,
    rfl, rfl, .inr ⟨place, _, hplace, ?_, rfl⟩, hnext⟩
  · refine hfits.places.modifyDesk rfl rfl rfl (fun earlier station' hearlier hstation' hold => ?_)
      fun other hne => ⟨rfl, Function.update_of_ne hne _ _⟩
    cases hdesk.symm.trans hearlier
    cases hstation.symm.trans hstation'
    refine ⟨hold.isListening, hold.inbound, ?_⟩
    simp only [Scene.turn, Function.update_self]
    exact hslot.register.2
  · exact fun call hcall => by cases hpost.symm.trans hcall

/-- A call returns with the result that was handed over. -/
theorem settles_await {next : Except Failure Reply → Routine β} {value : Reply}
    (hplace : (company.chooser? place.guest).isSome = true)
    (hpost : scene.post place = .answered call value)
    (hnext : ({ scene with post := update scene.post place .free }.turn capacity id none
      (next (.ok value))).Settles company P) :
    (scene.turn capacity id pending (Interaction.ask (.await place call) next)).Settles
      company P := by
  refine settles_turn nofun fun session hfits => ?_
  obtain ⟨desk, station, hdesk, hstation, hfits', -⟩ := hfits.places.exists_desk hplace
  have hslot : desk.slot.Holds station.nextCall (.answered call value) := hpost ▸ hfits'.slot
  have hperform : session.perform? (.await place call) = some (session, .ok value) := by
    simp [perform?, hdesk, hslot.fits.2]
  refine ⟨session, .ok value, { scene with post := update scene.post place .free }, hperform, ?_,
    rfl, rfl, .inr ⟨place, _, hplace, ?_, rfl⟩, hnext⟩
  · refine hfits.places.mono rfl rfl rfl fun other desk' station' hdesk' hstation' hold => ?_
    refine ⟨hold.isListening, hold.inbound, ?_⟩
    by_cases hsame : other = place
    · subst hsame
      cases hdesk.symm.trans hdesk'
      cases hstation.symm.trans hstation'
      simp only [Scene.turn, Function.update_self]
      exact ⟨hslot.handed, hslot.fits.1⟩
    · simp only [Scene.turn, Function.update_of_ne hsame]
      exact hold.slot
  · exact fun call hcall => by cases hpost.symm.trans hcall

/-- The scene in which a command is under way, and somebody may be doomed because of it. -/
def posted (scene : Scene ρ) (place : LinkEnd) (command : Command) (doomed : Option Party) :
    Scene ρ :=
  { scene with busy := none, letter := some (place.opposite, command), doomed }

/-- A command is put into the link when nothing else is under way. -/
theorem FitsPlaces.push? (h : scene.FitsPlaces company session)
    (hplace : (company.chooser? place.guest).isSome = true) (hletter : scene.letter = none)
    (hdoomed : scene.doomed = none) (command : Command) (doomed : Option Party) :
    ∃ middle, session.push? place command = some (middle, true) ∧
      (scene.posted place command doomed).FitsPlaces company middle := by
  rw [← LinkEnd.guest_opposite] at hplace
  obtain ⟨desk, station, hdesk, hstation, hfits, hstation'⟩ := h.exists_desk hplace
  have hrunning (party : Party) (station : Station)
      (hfits : station.Fits company scene.doomed party) : station.isRunning = true := by
    refine hfits.isRunning.resolve_left ?_
    rw [hdoomed]
    nofun
  have hlistening := hfits.isListening (hrunning _ station hstation')
  have hinbound (other : LinkEnd) : scene.inbound? other = none := by
    rw [inbound?, hletter]
    rfl
  have hempty : desk.inbound = none := hfits.inbound.trans (hinbound _)
  refine ⟨session.modifyDesk place.opposite fun desk => { desk with inbound := some command },
    by simp [Session.push?, hdesk, hlistening, hempty], ?_⟩
  have hplaces : { scene with letter := some (place.opposite, command) }.FitsPlaces company
      (session.modifyDesk place.opposite fun desk => { desk with inbound := some command }) := by
    refine h.modifyDesk rfl rfl rfl (fun earlier station' _ _ hold => ?_) fun other hne => ⟨?_, rfl⟩
    · exact ⟨hold.isListening, by simp [inbound?, Option.filter], hold.slot⟩
    · rw [hinbound]
      simp [inbound?, Option.filter, hne.symm]
  refine ⟨hplaces.table, hplaces.ends, hplaces.linked, fun party station hstation => ?_,
    hplaces.desk⟩
  have hfits := hplaces.station party station hstation
  exact ⟨hfits.isPresent, hfits.execute, .inr (hrunning party station hfits)⟩

/-- A call sends its action, and waits. -/
theorem settles_delegate {next : Bool → Routine β} {goOn : Except Failure Reply → Routine β}
    (hplace : (company.chooser? place.guest).isSome = true) (hdoomed : scene.doomed = none)
    (hpost : scene.post place = .waiting call)
    (hawait : next true = Interaction.ask (.await place call) goOn)
    (hnext : ({ scene with
      waiting := ⟨id, capacity.act (Interaction.ask (.await place call) goOn), pending⟩ ::
        scene.waiting }.posted place command none).Settles company P) :
    (scene.turn capacity id pending (Interaction.ask (.send place command) next)).Settles
      company P := by
  have hquestion := Capacity.question?_act capacity (.send place command) next
  refine settles_of_question rfl rfl hquestion nofun fun session hfits => ?_
  obtain ⟨middle, hpush, hplaces⟩ := hfits.places.push? hplace rfl hdoomed command none
  have hnobody {Q : Party → Prop} : ∀ party ∈ (none : Option Party), Q party :=
    fun party h => absurd h (Option.not_mem_none party)
  refine ⟨middle, true, { scene with
      waiting := ⟨id, capacity.act (Interaction.ask (.await place call) goOn), pending⟩ ::
        scene.waiting }.posted place command none, hpush, ?_,
    ⟨fun task hmem => ?_, hfits.sound.linked, hfits.sound.seated, hfits.sound.apart, hnobody,
      hnobody⟩, ⟨.inl ?_, .inl hdoomed⟩, hnext⟩
  · exact ⟨hplaces.table, hplaces.ends, hplaces.linked, hplaces.station, hplaces.desk⟩
  · obtain rfl | hmem := List.mem_cons.mp hmem
    · exact ⟨place, call, _, Capacity.question?_act capacity (.await place call) goOn, hpost⟩
    · exact hfits.sound.awaits task hmem
  · simp only [tasks, posted, Option.toList_none, List.nil_append, hawait]
    rfl

/-- A walk sends its result back, and is over. -/
theorem settles_result {router : Party} {next : Bool → Routine (Except Failure Unit)}
    {result : Except Failure Unit} {doomed : Option Party}
    (hplace : (company.chooser? place.guest).isSome = true) (hdoomed : scene.doomed = none)
    (hdone : next true = Interaction.done result)
    (hfatal : ∀ failure, result = .error failure → failure.isFatal = true → doomed = some router)
    (hmine : ∀ party ∈ doomed, ∀ task ∈ scene.waiting, task.activity.isWalkOf party = false)
    (hyours : ∀ party ∈ doomed, place.partner ≠ party)
    (hnext : (scene.posted place command doomed).Settles company P) :
    (scene.turn (.walk router) id none (Interaction.ask (.send place command) next)).Settles
      company P := by
  have hquestion := Capacity.question?_act (ρ := ρ) (.walk router) (.send place command) next
  refine settles_of_question rfl rfl hquestion nofun fun session hfits => ?_
  obtain ⟨middle, hpush, hplaces⟩ := hfits.places.push? hplace rfl hdoomed command doomed
  refine ⟨middle, true, scene.posted place command doomed, hpush, ?_,
    ⟨hfits.sound.awaits, hfits.sound.linked, hfits.sound.seated, ?_, hmine, ?_⟩,
    ⟨.inr ⟨rfl, rfl, router, result, ?_, hfatal⟩, .inl hdoomed⟩, hnext⟩
  · exact ⟨hplaces.table, hplaces.ends, hplaces.linked, hplaces.station, hplaces.desk⟩
  · exact (List.nodup_cons.mp hfits.sound.apart).2
  · rintro party hparty _ ⟨⟩
    rw [LinkEnd.owner_opposite]
    exact hyours party hparty
  · rw [hdone]
    rfl

/-- What is under way arrives where nobody else is about to take a step. -/
theorem settles_of_letter (hbusy : scene.busy = none) {letter : LinkEnd × Command}
    (hletter : scene.letter = some letter)
    (h : ∀ session, scene.Fits company session →
      ∃ after, session.receive? letter.1 = some after ∧ after.Settles P) :
    scene.Settles company P := by
  refine settles_of_step (.receive letter.1) ?_ ⟨?_, ?_⟩ h
  · rw [hbusy]
    exact fun task h => absurd h (Option.not_mem_none task)
  · rw [hbusy]
    exact fun task h => absurd h (Option.not_mem_none task)
  · rw [hletter]
    rintro _ ⟨⟩
    rfl

/-- What has arrived is taken in. -/
theorem FitsPlaces.receive? (h : scene.FitsPlaces company session)
    (hplace : (company.chooser? place.guest).isSome = true)
    (hletter : scene.letter = some (place, command)) (hdoomed : scene.doomed ≠ some place.owner) :
    ∃ station, station.execute = company.execute place.owner ∧
      session.receive? place = some ((session.taken place).dispatch place station command) ∧
      { scene with letter := none }.FitsPlaces company (session.taken place) := by
  obtain ⟨desk, station, hdesk, hstation, hfits, hstation'⟩ := h.exists_desk hplace
  have hrunning := hstation'.isRunning.resolve_left hdoomed
  have hinbound : desk.inbound = some command := by
    rw [hfits.inbound, inbound?, hletter]
    simp [Option.filter]
  refine ⟨station, hstation'.execute, ?_, ?_⟩
  · simp only [Session.receive?, hstation, hdesk, hinbound, hrunning, hfits.isListening hrunning,
      Option.bind_eq_bind, Option.bind_some, Bool.and_self, if_true]
    rfl
  · refine h.modifyDesk rfl rfl rfl
      (fun desk station _ _ hold => ⟨hold.isListening, rfl, hold.slot⟩)
      fun other hne => ⟨?_, rfl⟩
    simp [inbound?, hletter, Option.filter, hne.symm]

theorem FitsTasks.congr (h : scene.FitsTasks session) (hscene : scene'.tasks = scene.tasks)
    (htasks : middle.tasks = session.tasks) (hspawned : middle.spawned = session.spawned)
    (hdoomed : scene'.doomed = scene.doomed) : scene'.FitsTasks middle where
  apart := htasks ▸ h.apart
  spawned := by
    rw [htasks, hspawned]
    exact h.spawned
  present := by
    rw [hscene, htasks]
    exact h.present
  others := by
    rw [hscene, htasks, hdoomed]
    exact h.others

/-- The tasks fit when another one has been spawned that has its turn. -/
theorem FitsTasks.spawn (h : scene.FitsTasks session) (hbusy : scene.busy = none)
    (capacity : Capacity ρ β) (routine : Routine β) :
    (scene.turn capacity session.spawned none routine).FitsTasks
      (session.spawn (capacity.act routine)) := by
  refine ⟨nodup_queueTask h.apart fun task hmem => Nat.ne_of_lt (h.spawned task hmem),
    fun task hmem => ?_, fun task hmem => ?_, fun task hmem => ?_⟩
  · obtain hmem | hmem := List.mem_append.mp hmem
    · exact Nat.lt_succ_of_lt (h.spawned task hmem)
    · rw [List.mem_singleton.mp hmem]
      exact Nat.lt_succ_self _
  · obtain rfl | hmem := List.mem_cons.mp hmem
    · exact List.mem_append_right _ (List.mem_singleton.mpr rfl)
    · exact List.mem_append_left _ (h.present task (List.mem_append_right _ hmem))
  · obtain hmem | hmem := List.mem_append.mp hmem
    · obtain hmine | hover := h.others task hmem
      · rw [tasks, hbusy] at hmine
        exact .inl (List.mem_cons_of_mem _ hmine)
      · exact .inr hover
    · exact .inl (List.mem_singleton.mp hmem ▸ List.mem_cons_self)

/-- A router takes in an action, and starts a walk. -/
theorem settles_delegated {origin : Party} {action : Request} (hbusy : scene.busy = none)
    (hletter : scene.letter = some (place, .delegate origin call action))
    (hdoomed : scene.doomed = none) (hplace : (company.chooser? place.guest).isSome = true)
    (hnext : ∀ id, (scene.turn (.walk place.owner) id none
      (Routine.delegated (company.execute place.owner) place (attributed place origin) call
        action).run).Settles company P) : scene.Settles company P := by
  refine settles_of_letter hbusy hletter fun session hfits => ?_
  obtain ⟨station, hexecute, hreceive, hplaces⟩ :=
    hfits.places.receive? hplace hletter (by rw [hdoomed]; nofun)
  rw [dispatch, hexecute] at hreceive
  refine ⟨_, hreceive, hnext (session.taken place).spawned _ ⟨?_, ?_, ?_⟩⟩
  · refine ⟨hfits.sound.awaits, hfits.sound.linked, hfits.sound.seated, ?_, ?_, ?_⟩
    · have hapart : (scene.waiting.map Task.id).Nodup := by
        have hapart := hfits.sound.apart
        rwa [tasks, hbusy] at hapart
      refine List.nodup_cons.mpr ⟨fun hmem => ?_, hapart⟩
      obtain ⟨task, hmem, hid⟩ := List.mem_map.mp hmem
      have hless : task.id < (session.taken place).spawned := by
        rw [taken, spawned_modifyDesk]
        exact hfits.tasks.spawned task (hfits.tasks.present task (List.mem_append_right _ hmem))
      exact Nat.ne_of_lt hless hid
    · intro party hparty
      exact absurd (hdoomed.symm.trans hparty) nofun
    · intro party hparty
      exact absurd (hdoomed.symm.trans hparty) nofun
  · have hplaces' : (scene.turn (.walk place.owner) (session.taken place).spawned none
        (Routine.delegated (company.execute place.owner) place (attributed place origin) call
          action).run).FitsPlaces company (session.taken place) :=
      hplaces.mono rfl rfl rfl fun _ _ _ _ _ hfits => hfits
    exact hplaces'.withTasks _ _
  · have htaken : scene.FitsTasks (session.taken place) :=
      hfits.tasks.congr rfl (tasks_modifyDesk session place _)
        (spawned_modifyDesk session place _) rfl
    exact htaken.spawn hbusy (.walk place.owner) _

/-- A router takes in a result, and the task that waits for it goes on. -/
theorem settles_resulted {origin : Party} {value : Reply} {rest : List (Task ρ)}
    {goOn : Except Failure Reply → Routine β} (hbusy : scene.busy = none)
    (hletter : scene.letter = some (place, .result origin call value))
    (hplace : (company.chooser? place.guest).isSome = true)
    (hwaiting : scene.waiting =
      ⟨id, capacity.act (Interaction.ask (.await place call) goOn), pending⟩ :: rest)
    (hpost : scene.post place = .waiting call)
    (hrest : ∀ task ∈ rest, task.Awaits (update scene.post place (.answered call value)))
    (hnext : ({ scene with
      post := update scene.post place (.answered call value), waiting := rest }.turn capacity id
        pending (Interaction.ask (.await place call) goOn)).Settles company P) :
    scene.Settles company P := by
  refine settles_of_letter hbusy hletter fun session hfits => ?_
  have hdoomed : scene.doomed ≠ some place.owner := fun h => hfits.sound.yours _ h _ hletter rfl
  obtain ⟨station, -, hreceive, hplaces⟩ := hfits.places.receive? hplace hletter hdoomed
  have htasks : ({ scene with
      post := update scene.post place (.answered call value), waiting := rest }.turn capacity id
        pending (Interaction.ask (.await place call) goOn)).tasks = scene.tasks := by
    rw [tasks, tasks, hbusy, hwaiting]
    rfl
  have hplaces' : ({ scene with
      post := update scene.post place (.answered call value), waiting := rest }.turn capacity id
        pending (Interaction.ask (.await place call) goOn)).FitsPlaces company
          ((session.taken place).modifySlot place fun slot => (slot.deliver call value).1) := by
    refine hplaces.modifyDesk rfl rfl rfl (fun desk station _ _ hold => ?_) fun other hne => ?_
    · have hslot : desk.slot.Holds station.nextCall (.waiting call) := hpost ▸ hold.slot
      refine ⟨hold.isListening, hold.inbound, ?_⟩
      simp only [turn, Function.update_self]
      exact hslot.deliver value
    · exact ⟨rfl, Function.update_of_ne hne _ _⟩
  refine ⟨_, hreceive, hnext _ ⟨⟨hrest, fun other hother => ?_, hfits.sound.seated, ?_, ?_, ?_⟩,
    hplaces', ?_⟩⟩
  · exact linked_update hfits.sound.linked hplace (.answered call value) hother
  · rw [htasks]
    exact hfits.sound.apart
  · rw [htasks]
    exact hfits.sound.mine
  · exact fun party _ letter h => absurd h (Option.not_mem_none letter)
  · refine hfits.tasks.congr htasks ?_ ?_ rfl
    · exact (tasks_modifyDesk _ place _).trans (tasks_modifyDesk session place _)
    · exact (spawned_modifyDesk _ place _).trans (spawned_modifyDesk session place _)

/-! ### The end of a job -/

/-- A job is done, and how it ended is recorded. -/
theorem settles_jobDone {number : Nat} {holder : Party} {result : ρ}
    (hnext : ({ scene with
      busy := none, letter := none,
      ends := scene.ends ++ [(number, .result result)] } : Scene ρ).Settles company P) :
    (scene.turn (.job number holder) id pending (Interaction.done result)).Settles company P := by
  refine settles_of_step (.advance id) ?_ ⟨?_, ?_⟩ fun session hfits => ?_
  · rintro _ ⟨⟩
    rfl
  · rintro _ ⟨⟩
    rfl
  · exact fun letter h => absurd h (Option.not_mem_none letter)
  obtain ⟨hnew, hapart⟩ := List.nodup_cons.mp hfits.sound.apart
  have hmem := hfits.tasks.present ⟨id, .job number holder (Interaction.done result), pending⟩
    List.mem_cons_self
  have hadvance : session.advance? id =
      some ((session.withoutTask id).endJob number (.result result)) := by
    rw [advance?, task?_of_mem hfits.tasks.apart hmem]
    rfl
  have hold (task : Task ρ) : task ∈ ((session.withoutTask id).endJob number
      (.result result)).tasks ↔ task ∈ session.tasks ∧ task.id ≠ id := mem_tasks_withoutTask
  refine ⟨_, hadvance, hnext _ ⟨⟨hfits.sound.awaits, hfits.sound.linked, hfits.sound.seated, hapart,
    fun party hparty task hmem => ?_, ?_⟩, ?_, ?_, fun task hmem => ?_, fun task hmem => ?_,
    fun task hmem => ?_⟩⟩
  · exact hfits.sound.mine party hparty task (List.mem_cons_of_mem _ hmem)
  · exact fun party _ letter h => absurd h (Option.not_mem_none letter)
  · have hplaces := hfits.places
    refine ⟨hplaces.table, congrArg (· ++ _) hplaces.ends, fun place => ?_,
      fun party station h => ?_,
      fun place desk station hdesk hstation => ?_⟩
    · rw [desk?_endJob, desk?_withoutTask]
      exact hplaces.linked place
    · rw [station?_endJob, station?_withoutTask] at h
      exact hplaces.station party station h
    · rw [desk?_endJob, desk?_withoutTask] at hdesk
      rw [station?_endJob, station?_withoutTask] at hstation
      exact hplaces.desk place desk station hdesk hstation
  · exact (List.filter_sublist.map Task.id).nodup hfits.tasks.apart
  · exact hfits.tasks.spawned task ((hold task).mp hmem).1
  · refine (hold task).mpr ⟨hfits.tasks.present task (List.mem_cons_of_mem _ hmem), fun heq => ?_⟩
    exact hnew (List.mem_map.mpr ⟨task, hmem, heq⟩)
  · obtain ⟨hmem, hne⟩ := (hold task).mp hmem
    obtain hmine | hover := hfits.tasks.others task hmem
    · obtain rfl | hmine := List.mem_cons.mp hmine
      · exact absurd rfl hne
      · exact .inl hmine
    · exact .inr hover

end Scene

end RoundTable
