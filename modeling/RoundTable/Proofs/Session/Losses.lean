import RoundTable.Proofs.Session.Views

/-!
# Losses

Much of what happens to a session only takes something away: a job that ends or is given up, a
router that takes notice of the end of a walk or stops, a party that leaves. Tasks disappear,
commands are lost on their way, and calls do not wait any more; but nothing is sent, handed over or
numbered.

## Main definitions

* `Slot.Loses`, `Desk.Loses`, `Station.Loses`: what may be lost at one place
* `Session.Loses`: what may be lost in a session

## Main results

* `Session.loses_shutRouter`, `Session.loses_cancelJobs`, `Session.loses_leave`: the losses
-/

namespace RoundTable

/-! ### Parts -/

/-- A call may not wait any more, or its caller may be gone. -/
structure Slot.Loses (before after : Slot) : Prop where
  handed : after.handed = before.handed
  waiter : ∀ waiter ∈ after.waiter,
    ∃ earlier ∈ before.waiter, earlier.call = waiter.call ∧ (waiter.isLive → earlier.isLive)

namespace Slot.Loses

variable {before middle after : Slot} {call : CallId}

theorem refl (slot : Slot) : Loses slot slot :=
  ⟨rfl, fun waiter h => ⟨waiter, h, rfl, id⟩⟩

theorem trans (first : Loses before middle) (second : Loses middle after) : Loses before after := by
  refine ⟨second.handed.trans first.handed, fun waiter h => ?_⟩
  obtain ⟨later, hlater, hcall, hlive⟩ := second.waiter waiter h
  obtain ⟨earlier, hearlier, hcall', hlive'⟩ := first.waiter later hlater
  exact ⟨earlier, hearlier, hcall'.trans hcall, fun h => hlive' (hlive h)⟩

theorem close (slot : Slot) : Loses slot slot.close := ⟨rfl, nofun⟩

theorem cancel (slot : Slot) (call : CallId) : Loses slot (slot.cancel call) := by
  rw [Slot.cancel]
  split
  · exact ⟨rfl, nofun⟩
  · exact refl slot

theorem abandon (slot : Slot) (call : CallId) : Loses slot (slot.abandon call) := by
  rw [Slot.abandon]
  split
  case isTrue h =>
    obtain ⟨waiter, hwaiter, hcall⟩ := (Option.any_eq_true _ _).mp h
    refine ⟨rfl, ?_⟩
    rintro _ ⟨⟩
    exact ⟨waiter, hwaiter, of_decide_eq_true hcall, nofun⟩
  case isFalse => exact refl slot

/-- A result that nobody waits for is handed to nobody. -/
theorem deliver {slot : Slot} {call : CallId} (h : slot.live? ≠ some call) (value : Reply) :
    Loses slot (slot.deliver call value).1 := by
  rw [Slot.deliver]
  cases hwaiter : slot.waiter with
  | none => exact refl slot
  | some waiter =>
    dsimp only
    split
    case isFalse => exact refl slot
    case isTrue hcall =>
      split
      case isFalse => exact ⟨rfl, nofun⟩
      case isTrue hlive =>
        exact absurd (by simp [Slot.live?, hwaiter, Option.filter, hlive, hcall]) h

end Slot.Loses

/-- A command may be lost on its way, and nothing may arrive any more. -/
structure Desk.Loses (before after : Desk) : Prop where
  slot : before.slot.Loses after.slot
  inbound : ∀ command ∈ after.inbound, command ∈ before.inbound

theorem Desk.Loses.refl (desk : Desk) : Loses desk desk := ⟨.refl desk.slot, fun _ h => h⟩

theorem Desk.Loses.trans {before middle after : Desk} (first : Loses before middle)
    (second : Loses middle after) : Loses before after :=
  ⟨first.slot.trans second.slot, fun command h => first.inbound command (second.inbound command h)⟩

theorem Desk.Loses.shut (desk : Desk) : Loses desk desk.shut := ⟨.refl desk.slot, nofun⟩

theorem Desk.Loses.of_slot {desk : Desk} {slot : Slot} (h : desk.slot.Loses slot) :
    Loses desk { desk with slot } :=
  ⟨h, fun _ h => h⟩

/-- A router may stop; if it stops because of an error, then for one of the given reasons. -/
structure Station.Loses (why : SessionError → Prop) (before after : Station) : Prop where
  nextCall : after.nextCall = before.nextCall
  execute : after.execute = before.execute
  router : after.router = before.router ∨ ∀ error, after.router = .ended (.error error) → why error

theorem Station.Loses.refl (why : SessionError → Prop) (station : Station) :
    Loses why station station :=
  ⟨rfl, rfl, .inl rfl⟩

theorem Station.Loses.trans {why : SessionError → Prop} {before middle after : Station}
    (first : Loses why before middle) (second : Loses why middle after) :
    Loses why before after := by
  refine ⟨second.nextCall.trans first.nextCall, second.execute.trans first.execute, ?_⟩
  obtain heq | hwhy := second.router
  · rw [heq]
    exact first.router
  · exact .inr hwhy

/-! ### Sessions -/

namespace Session

variable {ρ : Type}

/-- Tasks, commands on their way and calls that wait may be lost, and routers may stop. Otherwise
the session is the same, and jobs that have come to no other end may be known to be given up. -/
structure Loses (why : SessionError → Prop) (before after : Session ρ) : Prop where
  table : after.table = before.table
  tasks : after.tasks.Sublist before.tasks
  ends : ∀ jobEnd ∈ after.ends, jobEnd ∈ before.ends ∨ jobEnd.2 = .aborted
  desk : ∀ place, Option.Rel Desk.Loses (before.desk? place) (after.desk? place)
  station : ∀ party,
    Option.Rel (Station.Loses why) (before.station? party) (after.station? party)

variable {why : SessionError → Prop} {before middle after session : Session ρ}

theorem Loses.refl (why : SessionError → Prop) (session : Session ρ) :
    Loses why session session where
  table := rfl
  tasks := .refl _
  ends _ h := .inl h
  desk place := by
    cases session.desk? place with
    | none => exact .none
    | some desk => exact .some (.refl desk)
  station party := by
    cases session.station? party with
    | none => exact .none
    | some station => exact .some (.refl why station)

theorem Loses.exists_desk (h : Loses why before after) {place : LinkEnd} {desk : Desk}
    (hdesk : after.desk? place = some desk) :
    ∃ earlier, before.desk? place = some earlier ∧ earlier.Loses desk := by
  have hrel := h.desk place
  rw [hdesk] at hrel
  generalize before.desk? place = o at hrel
  cases hrel with
  | some hloses => exact ⟨_, rfl, hloses⟩

theorem Loses.exists_station (h : Loses why before after) {party : Party} {station : Station}
    (hstation : after.station? party = some station) :
    ∃ earlier, before.station? party = some earlier ∧ earlier.Loses why station := by
  have hrel := h.station party
  rw [hstation] at hrel
  generalize before.station? party = o at hrel
  cases hrel with
  | some hloses => exact ⟨_, rfl, hloses⟩

theorem Loses.trans (first : Loses why before middle) (second : Loses why middle after) :
    Loses why before after where
  table := second.table.trans first.table
  tasks := second.tasks.trans first.tasks
  ends jobEnd h := (second.ends jobEnd h).elim (first.ends jobEnd) .inr
  desk place := by
    have hfirst := first.desk place
    have hsecond := second.desk place
    generalize before.desk? place = a at hfirst
    generalize middle.desk? place = b at hfirst hsecond
    cases hfirst with
    | none => exact hsecond
    | some hloses =>
      generalize after.desk? place = c at hsecond
      cases hsecond with
      | some hloses' => exact .some (hloses.trans hloses')
  station party := by
    have hfirst := first.station party
    have hsecond := second.station party
    generalize before.station? party = a at hfirst
    generalize middle.station? party = b at hfirst hsecond
    cases hfirst with
    | none => exact hsecond
    | some hloses =>
      generalize after.station? party = c at hsecond
      cases hsecond with
      | some hloses' => exact .some (hloses.trans hloses')

/-- Where only tasks are taken out, only tasks are lost. -/
theorem loses_of_tasks {tasks : List (Task ρ)} (h : tasks.Sublist session.tasks) :
    Loses why session { session with tasks } where
  table := rfl
  tasks := h
  ends _ h := .inl h
  desk place := by
    have hsame : desk? { session with tasks } place = session.desk? place := by
      cases place <;> rfl
    rw [hsame]
    exact (Loses.refl why session).desk place
  station party := by
    have hsame : station? { session with tasks } party = session.station? party := by
      cases party <;> rfl
    rw [hsame]
    exact (Loses.refl why session).station party

theorem loses_withoutTask (why : SessionError → Prop) (session : Session ρ) (id : Nat) :
    Loses why session (session.withoutTask id) :=
  loses_of_tasks List.filter_sublist

theorem loses_modifyDesk {place : LinkEnd} {change : Desk → Desk}
    (h : ∀ desk, session.desk? place = some desk → desk.Loses (change desk)) :
    Loses why session (session.modifyDesk place change) where
  table := table_modifyDesk session place change
  tasks := tasks_modifyDesk session place change ▸ .refl _
  ends jobEnd h := by
    rw [ends_modifyDesk] at h
    exact .inl h
  desk other := by
    rw [desk?_modifyDesk]
    split
    case isTrue heq =>
      subst heq
      cases hdesk : session.desk? other with
      | none => exact .none
      | some desk => exact .some (h desk hdesk)
    case isFalse => exact (Loses.refl why session).desk other
  station party := by
    rw [station?_modifyDesk]
    exact (Loses.refl why session).station party

theorem loses_modifySlot {place : LinkEnd} {change : Slot → Slot}
    (h : ∀ slot : Slot, slot.Loses (change slot)) :
    Loses why session (session.modifySlot place change) :=
  loses_modifyDesk fun desk _ => .of_slot (h desk.slot)

theorem loses_modifyStation {party : Party} {change : Station → Station}
    (h : ∀ station : Station, station.Loses why (change station)) :
    Loses why session (session.modifyStation party change) where
  table := table_modifyStation session party change
  tasks := tasks_modifyStation session party change ▸ .refl _
  ends jobEnd h := by
    rw [ends_modifyStation] at h
    exact .inl h
  desk place := by
    rw [desk?_modifyStation]
    exact (Loses.refl why session).desk place
  station other := by
    rw [station?_modifyStation]
    split
    case isTrue =>
      cases session.station? other with
      | none => exact .none
      | some station => exact .some (h station)
    case isFalse => exact (Loses.refl why session).station other

/-! ### Dropped tasks -/

theorem loses_abandon (why : SessionError → Prop) (session : Session ρ) (task : Task ρ) :
    Loses why session (session.abandon task) := by
  rw [abandon]
  split
  case h_1 place call _ => exact loses_modifySlot fun slot => .abandon slot call
  case h_2 => exact .refl why session

theorem loses_foldl_abandon (why : SessionError → Prop) (session : Session ρ)
    (tasks : List (Task ρ)) : Loses why session (tasks.foldl abandon session) := by
  induction tasks generalizing session with
  | nil => exact .refl why session
  | cons task tasks ih => exact (loses_abandon why session task).trans (ih _)

theorem loses_dropTasks (why : SessionError → Prop) (session : Session ρ)
    (drops : Activity ρ → Bool) : Loses why session (session.dropTasks drops) :=
  (loses_of_tasks List.filter_sublist).trans (loses_foldl_abandon why _ _)

/-! ### Routers that stop -/

theorem loses_foldl_shut (why : SessionError → Prop) (session : Session ρ)
    (places : List LinkEnd) :
    Loses why session
      (places.foldl (fun session place => session.modifyDesk place Desk.shut) session) := by
  induction places generalizing session with
  | nil => exact .refl why session
  | cons place places ih => exact (loses_modifyDesk fun desk _ => .shut desk).trans (ih _)

/-- A router that is gone loses what has arrived and its walks. -/
theorem loses_shutRouter (session : Session ρ) (party : Party) {router : RouterState}
    (h : ∀ error, router = .ended (.error error) → why error) :
    Loses why session (session.shutRouter party router) := by
  have hshut := loses_foldl_shut why session (session.endsOf party)
  have hrouter : ∀ station : Station, station.Loses why { station with router } :=
    fun station => ⟨rfl, rfl, .inr h⟩
  exact (hshut.trans (loses_modifyStation hrouter)).trans (loses_dropTasks why _ _)

theorem loses_join (session : Session ρ) (party : Party) (result : Except Failure Unit) :
    Loses (fun error => ∃ failure, result = .error failure ∧ error = .failed failure) session
      (session.join party result) := by
  cases result with
  | ok => exact .refl _ session
  | error failure =>
    rw [join.eq_def]
    dsimp only
    split
    · refine loses_shutRouter session party ?_
      rintro _ ⟨⟩
      exact ⟨failure, rfl, rfl⟩
    · exact .refl _ session

/-! ### From outside -/

theorem loses_endJob_aborted (why : SessionError → Prop) (session : Session ρ) (number : Nat) :
    Loses why session (session.endJob number .aborted) where
  table := rfl
  tasks := .refl _
  ends jobEnd h := by
    obtain h | h := List.mem_append.mp h
    · exact .inl h
    · exact .inr (by rw [List.mem_singleton.mp h])
  desk place := by
    rw [desk?_endJob]
    exact (Loses.refl why session).desk place
  station party := by
    rw [station?_endJob]
    exact (Loses.refl why session).station party

theorem loses_cancelJobs (why : SessionError → Prop) (session : Session ρ)
    (cancels : Activity ρ → Bool) : Loses why session (session.cancelJobs cancels) := by
  have hends (session : Session ρ) (numbers : List Nat) : Loses why session
      (numbers.foldl (fun session number => session.endJob number .aborted) session) := by
    induction numbers generalizing session with
    | nil => exact .refl why session
    | cons number numbers ih => exact (loses_endJob_aborted why session number).trans (ih _)
  exact (loses_dropTasks why session cancels).trans (hends _ _)

theorem loses_leave (why : SessionError → Prop) (session : Session ρ) (party : Party) :
    Loses why session (session.leave party) := by
  have hpresent (session : Session ρ) : Loses why session
      (session.modifyStation party fun station => { station with isPresent := false }) :=
    loses_modifyStation fun station => ⟨rfl, rfl, .inl rfl⟩
  rw [leave]
  split
  · exact (loses_shutRouter session party nofun).trans (hpresent _)
  · exact (loses_foldl_shut why session _).trans (hpresent _)

theorem loses_poll (why : SessionError → Prop) (session : Session ρ) (number : Nat) :
    Loses why session (session.poll number).1 := by
  rw [poll]
  split
  · exact .refl why session
  · split
    case h_1 =>
      have hsame := Loses.refl why session
      refine ⟨rfl, .refl _, fun jobEnd h => .inl ((List.mem_filter.mp h).1), fun place => ?_,
        fun party => ?_⟩
      · cases place <;> exact hsame.desk _
      · cases party <;> exact hsame.station _
    case h_2 => exact .refl why session

theorem loses_tryReceive (why : SessionError → Prop) (session : Session ρ) (place : LinkEnd) :
    Loses why session (session.tryReceive place).1 := by
  have htaken : ∀ desk : Desk, desk.Loses { desk with inbound := none } :=
    fun desk => ⟨.refl desk.slot, nofun⟩
  rw [tryReceive]
  split
  · exact loses_modifyDesk fun desk _ => htaken desk
  · exact .refl why session

end Session

end RoundTable
