import RoundTable.Session.Move

/-!
# Looking at parts of a session

A session is a list of links and a list of tasks. What happens to it is told by what one sees at an
end of a link and of a party's station, and each change of the session shows at the one place that
it is about and nowhere else.

## Main definitions

* `Session.slot?`, `Session.nextCall?`, `Session.execute?`: the slot of an end, the next number and
  the executor of a party

## Main results

* `Session.desk?_modifyDesk`, `Session.station?_modifyStation`: a change shows where it is made
* `Session.station?_modifyDesk`, `Session.desk?_modifyStation`: and nowhere else
* `Session.mem_endsOf`: the ends of a party are those that it owns
* `Session.slot?_modifySlot`: so it is with slots
-/

namespace RoundTable

@[simp]
theorem LinkEnd.opposite_opposite (place : LinkEnd) : place.opposite.opposite = place := by
  cases place <;> rfl

@[grind →]
theorem LinkEnd.eq_of_opposite_eq {place other : LinkEnd}
    (h : place.opposite = other.opposite) : place = other := by
  rw [← place.opposite_opposite, h, other.opposite_opposite]

@[simp]
theorem LinkEnd.owner_opposite (place : LinkEnd) : place.opposite.owner = place.partner := by
  cases place <;> rfl

namespace Session

variable {ρ : Type} {session : Session ρ}

/-! ### Links -/

theorem link?_modifyLink (session : Session ρ) (id other : PlayerId) {change : Link → Link}
    (hid : ∀ link, (change link).id = link.id) :
    (session.modifyLink id change).link? other =
      if other = id then (session.link? other).map change else session.link? other := by
  rw [link?, modifyLink, List.find?_map]
  have hfun : ((fun link : Link => decide (link.id = other)) ∘
      fun link => if link.id = id then change link else link) =
        fun link => decide (link.id = other) := by
    funext link
    simp only [Function.comp_apply]
    split
    · rw [hid]
    · rfl
  rw [hfun]
  change (session.link? other).map _ = _
  cases hlink : session.link? other with
  | none => simp
  | some link =>
    have hother : link.id = other := by
      have := List.find?_some hlink
      simpa using this
    by_cases hsame : other = id <;> simp [hother, hsame]

section

variable {table : Table} {server : Option (Executor Routine)}
  {participants : List (PlayerId × Option (Executor Routine))}

theorem link?_opened {id : PlayerId} {link : Link}
    (h : (opened table server participants : Session ρ).link? id = some link) :
    ∃ participant ∈ participants, link = openLink participant.1 participant.2 := by
  obtain ⟨participant, hmem, heq⟩ := List.mem_map.mp (List.mem_of_find?_eq_some h)
  exact ⟨participant, hmem, heq.symm⟩

theorem desk?_opened {place : LinkEnd} {desk : Desk}
    (h : (opened table server participants : Session ρ).desk? place = some desk) :
    desk = .opened := by
  cases place <;>
  · obtain ⟨link, hlink, rfl⟩ := Option.map_eq_some_iff.mp h
    obtain ⟨participant, -, rfl⟩ := link?_opened hlink
    rfl

theorem station?_opened {party : Party} {station : Station}
    (h : (opened table server participants : Session ρ).station? party = some station) :
    ∃ execute, station = .opened execute ∧
      (execute = server ∨ ∃ participant ∈ participants, execute = participant.2) := by
  cases party with
  | server =>
    cases h
    exact ⟨server, rfl, .inl rfl⟩
  | participant id =>
    obtain ⟨link, hlink, rfl⟩ := Option.map_eq_some_iff.mp h
    obtain ⟨participant, hmem, rfl⟩ := link?_opened hlink
    exact ⟨participant.2, rfl, .inr ⟨participant, hmem, rfl⟩⟩

end

/-! ### Changes of a station -/

section

variable (session : Session ρ) (party : Party) (change : Station → Station)

@[simp]
theorem table_modifyStation : (session.modifyStation party change).table = session.table := by
  cases party <;> rfl

@[simp]
theorem tasks_modifyStation : (session.modifyStation party change).tasks = session.tasks := by
  cases party <;> rfl

@[simp]
theorem ends_modifyStation : (session.modifyStation party change).ends = session.ends := by
  cases party <;> rfl

@[simp]
theorem spawned_modifyStation : (session.modifyStation party change).spawned = session.spawned := by
  cases party <;> rfl

theorem station?_modifyStation (other : Party) :
    (session.modifyStation party change).station? other =
      if other = party then (session.station? other).map change else session.station? other := by
  cases party with
  | server => cases other <;> simp [modifyStation, station?, link?]
  | participant id =>
    cases other with
    | server => simp [modifyStation, station?, modifyLink]
    | participant other =>
      simp only [modifyStation, station?]
      rw [link?_modifyLink]
      · by_cases hsame : other = id <;> simp [hsame, Function.comp_def]
      · exact fun _ => rfl

@[simp]
theorem desk?_modifyStation (place : LinkEnd) :
    (session.modifyStation party change).desk? place = session.desk? place := by
  cases party with
  | server => cases place <;> rfl
  | participant id =>
    cases place <;>
    · simp only [modifyStation, desk?]
      rw [link?_modifyLink]
      · split <;> simp [Function.comp_def]
      · exact fun _ => rfl

end

/-! ### Changes of an end -/

section

variable (session : Session ρ) (place : LinkEnd) (change : Desk → Desk)

@[simp]
theorem table_modifyDesk : (session.modifyDesk place change).table = session.table := by
  cases place <;> rfl

@[simp]
theorem tasks_modifyDesk : (session.modifyDesk place change).tasks = session.tasks := by
  cases place <;> rfl

@[simp]
theorem ends_modifyDesk : (session.modifyDesk place change).ends = session.ends := by
  cases place <;> rfl

@[simp]
theorem spawned_modifyDesk : (session.modifyDesk place change).spawned = session.spawned := by
  cases place <;> rfl

@[simp]
theorem station?_modifyDesk (party : Party) :
    (session.modifyDesk place change).station? party = session.station? party := by
  cases party with
  | server => cases place <;> rfl
  | participant other =>
    cases place <;>
    · simp only [modifyDesk, station?]
      rw [link?_modifyLink]
      · split <;> simp [Function.comp_def]
      · exact fun _ => rfl

theorem desk?_modifyDesk (other : LinkEnd) :
    (session.modifyDesk place change).desk? other =
      if other = place then (session.desk? other).map change else session.desk? other := by
  cases place <;> cases other <;>
  · simp only [modifyDesk, desk?]
    rw [link?_modifyLink]
    · split <;> simp_all [Function.comp_def]
    · exact fun _ => rfl

end

/-! ### Tasks -/

section

variable (session : Session ρ)

@[simp]
theorem desk?_queueTask (task : Task ρ) (place : LinkEnd) :
    (session.queueTask task).desk? place = session.desk? place := by
  cases place <;> rfl

@[simp]
theorem station?_queueTask (task : Task ρ) (party : Party) :
    (session.queueTask task).station? party = session.station? party := by
  cases party <;> rfl

@[simp]
theorem desk?_withoutTask (id : Nat) (place : LinkEnd) :
    (session.withoutTask id).desk? place = session.desk? place := by
  cases place <;> rfl

@[simp]
theorem station?_withoutTask (id : Nat) (party : Party) :
    (session.withoutTask id).station? party = session.station? party := by
  cases party <;> rfl

@[simp]
theorem desk?_spawn (activity : Activity ρ) (place : LinkEnd) :
    (session.spawn activity).desk? place = session.desk? place := by
  cases place <;> rfl

@[simp]
theorem station?_spawn (activity : Activity ρ) (party : Party) :
    (session.spawn activity).station? party = session.station? party := by
  cases party <;> rfl

@[simp]
theorem desk?_endJob (number : Nat) (jobEnd : JobEnd ρ) (place : LinkEnd) :
    (session.endJob number jobEnd).desk? place = session.desk? place := by
  cases place <;> rfl

@[simp]
theorem station?_endJob (number : Nat) (jobEnd : JobEnd ρ) (party : Party) :
    (session.endJob number jobEnd).station? party = session.station? party := by
  cases party <;> rfl

end

theorem mem_of_task? {id : Nat} {task : Task ρ} (h : session.task? id = some task) :
    task ∈ session.tasks ∧ task.id = id :=
  ⟨List.mem_of_find?_eq_some h, by simpa using List.find?_some h⟩

theorem task?_queueTask (session : Session ρ) (task : Task ρ) (id : Nat) :
    (session.queueTask task).task? id =
      (session.task? id).or (if task.id = id then some task else none) := by
  rw [task?, queueTask, List.find?_append, List.find?_singleton]
  simp [task?]

theorem task?_withoutTask (session : Session ρ) (other id : Nat) :
    (session.withoutTask other).task? id = if id = other then none else session.task? id := by
  rw [task?, withoutTask, List.find?_filter]
  split
  case isTrue heq =>
    subst heq
    refine List.find?_eq_none.mpr fun task _ => ?_
    simp
  case isFalse hne =>
    rw [task?]
    congr 1
    funext task
    by_cases hid : task.id = id
    · simp [hid, hne]
    · simp [hid]

/-! ### Ends -/

theorem isSome_station?_owner (session : Session ρ) (place : LinkEnd)
    (h : (session.desk? place).isSome = true) : (session.station? place.owner).isSome = true := by
  cases place with
  | ofServer id => rfl
  | ofParticipant id =>
    simp only [desk?, Option.isSome_map] at h
    simpa [station?, LinkEnd.owner] using h

theorem mem_endsOf {party : Party} {place : LinkEnd} :
    place ∈ session.endsOf party ↔ place.owner = party ∧ (session.desk? place).isSome = true := by
  cases party with
  | server =>
    cases place with
    | ofServer id =>
      simp [endsOf, LinkEnd.owner, desk?, link?, List.find?_isSome]
    | ofParticipant id => simp [endsOf, LinkEnd.owner]
  | participant other =>
    cases place with
    | ofServer id => simp only [endsOf, LinkEnd.owner]; split <;> simp
    | ofParticipant id =>
      simp only [endsOf, LinkEnd.owner, desk?, Option.isSome_map]
      split <;> simp_all

/-- Shutting ends one after another. -/
theorem desk?_foldl_shut (places : List LinkEnd) (session : Session ρ) (place : LinkEnd) :
    (places.foldl (fun session place => session.modifyDesk place Desk.shut) session).desk? place =
      if place ∈ places then (session.desk? place).map Desk.shut else session.desk? place := by
  have htwice : Desk.shut ∘ Desk.shut = Desk.shut := rfl
  induction places generalizing session with
  | nil => rfl
  | cons first places ih =>
    rw [List.foldl_cons, ih, desk?_modifyDesk]
    by_cases hfirst : place = first
    · subst hfirst
      simp [Option.map_map, htwice]
    · simp [hfirst]

/-- All that happens at an end whose party's router is gone. -/
def shutEnds (session : Session ρ) (party : Party) : Session ρ :=
  (session.endsOf party).foldl (fun session place => session.modifyDesk place Desk.shut) session

theorem desk?_shutEnds (session : Session ρ) (party : Party) (place : LinkEnd) :
    (session.shutEnds party).desk? place =
      if place.owner = party then (session.desk? place).map Desk.shut else session.desk? place := by
  rw [shutEnds, desk?_foldl_shut]
  by_cases howner : place.owner = party
  · cases hdesk : session.desk? place with
    | none => simp
    | some desk =>
      have hmem : place ∈ session.endsOf party := mem_endsOf.mpr ⟨howner, by simp [hdesk]⟩
      rw [if_pos hmem, if_pos howner]
  · have hmem : place ∉ session.endsOf party := fun h => howner (mem_endsOf.mp h).1
    rw [if_neg hmem, if_neg howner]

theorem foldl_shut (places : List LinkEnd) (session : Session ρ) :
    let shut := places.foldl (fun session place => session.modifyDesk place Desk.shut) session
    shut.table = session.table ∧ shut.tasks = session.tasks ∧ shut.ends = session.ends ∧
      shut.spawned = session.spawned ∧
      ∀ party, shut.station? party = session.station? party := by
  induction places generalizing session with
  | nil => exact ⟨rfl, rfl, rfl, rfl, fun _ => rfl⟩
  | cons place places ih =>
    obtain ⟨htable, htasks, hends, hspawned, hstation⟩ := ih (session.modifyDesk place Desk.shut)
    refine ⟨htable.trans ?_, htasks.trans ?_, hends.trans ?_, hspawned.trans ?_,
      fun party => (hstation party).trans ?_⟩ <;> simp

/-! ### Slots, numbers and executors -/

/-- The slot at one end of a link. -/
def slot? (session : Session ρ) (place : LinkEnd) : Option Slot :=
  (session.desk? place).map Desk.slot

/-- The number of a party's next call. -/
def nextCall? (session : Session ρ) (party : Party) : Option Nat :=
  (session.station? party).map Station.nextCall

/-- How a party carries out actions. -/
def execute? (session : Session ρ) (party : Party) : Option (Executor Routine) :=
  (session.station? party).map Station.execute

theorem slot?_modifySlot (session : Session ρ) (place other : LinkEnd) (change : Slot → Slot) :
    (session.modifySlot place change).slot? other =
      if other = place then (session.slot? other).map change else session.slot? other := by
  rw [slot?, modifySlot, desk?_modifyDesk]
  split <;> simp [slot?, Function.comp_def]

theorem slot?_modifyDesk (session : Session ρ) (place other : LinkEnd) {change : Desk → Desk}
    (h : ∀ desk, (change desk).slot = desk.slot) :
    (session.modifyDesk place change).slot? other = session.slot? other := by
  rw [slot?, desk?_modifyDesk]
  split <;> simp [slot?, Function.comp_def, h]

/-! ### Answers -/

section

variable {after : Session ρ}

/-- A command is put into a link, or the session stays as it is. -/
theorem eq_of_push? {place : LinkEnd} {command : Command} {sent : Bool}
    (h : session.push? place command = some (after, sent)) :
    after = session ∨ after = session.modifyDesk place.opposite fun desk =>
      { desk with inbound := some command } := by
  rw [push?] at h
  split at h
  case h_1 =>
    cases h
    exact .inl rfl
  case h_2 =>
    split at h
    · split at h
      · cases h
      · cases h
        exact .inr rfl
    · cases h
      exact .inl rfl

/-- A call registers in a slot where no other one waits, or the session stays as it is. -/
theorem register_cases {place : LinkEnd} {call : CallId} {answer : Except Failure Unit}
    (h : session.perform? (.register place call) = some (after, answer)) :
    (∃ failure, answer = .error failure ∧ after = session) ∨
      answer = .ok () ∧ ∃ slot, session.slot? place = some slot ∧ slot.live? = none ∧
        after = session.modifySlot place fun _ => { slot with waiter := some ⟨call, true⟩ } := by
  simp only [perform?, register, Option.some.injEq] at h
  split at h
  case h_1 =>
    cases h
    exact .inl ⟨_, rfl, rfl⟩
  case h_2 desk hdesk =>
    rw [Slot.register] at h
    cases hlive : desk.slot.live? with
    | some pending =>
      rw [hlive] at h
      cases h
      exact .inl ⟨_, rfl, rfl⟩
    | none =>
      rw [hlive] at h
      cases h
      exact .inr ⟨rfl, desk.slot, congrArg _ hdesk, hlive, rfl⟩

/-- To answer a question is not to start, to drop or to end anything. -/
theorem keeps_perform? {effect : Effect} {answer : effect.Answer}
    (h : session.perform? effect = some (after, answer)) :
    after.tasks = session.tasks ∧ after.spawned = session.spawned ∧ after.ends = session.ends := by
  have hdesk (place : LinkEnd) (change : Desk → Desk) :
      (session.modifyDesk place change).tasks = session.tasks ∧
        (session.modifyDesk place change).spawned = session.spawned ∧
        (session.modifyDesk place change).ends = session.ends :=
    ⟨tasks_modifyDesk .., spawned_modifyDesk .., ends_modifyDesk ..⟩
  cases effect with
  | observe | apply | applyOr | confirm | isLinked =>
    cases h
    exact ⟨rfl, rfl, rfl⟩
  | number party =>
    cases h
    exact ⟨tasks_modifyStation .., spawned_modifyStation .., ends_modifyStation ..⟩
  | cancel place call =>
    cases h
    exact hdesk place _
  | crash => cases h
  | send place command =>
    obtain rfl | rfl := eq_of_push? h
    · exact ⟨rfl, rfl, rfl⟩
    · exact hdesk _ _
  | await place call =>
    rw [perform?] at h
    split at h
    · cases h
      exact ⟨rfl, rfl, rfl⟩
    · obtain ⟨answer, -, heq⟩ := Option.map_eq_some_iff.mp h
      cases heq
      exact ⟨rfl, rfl, rfl⟩
  | register place call =>
    obtain ⟨failure, rfl, rfl⟩ | ⟨rfl, slot, -, -, rfl⟩ := register_cases h
    · exact ⟨rfl, rfl, rfl⟩
    · exact hdesk place _

end

end Session

end RoundTable
