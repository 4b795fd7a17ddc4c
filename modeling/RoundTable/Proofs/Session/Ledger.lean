import RoundTable.Proofs.Session.Stories

/-!
# Stories and sessions fit together

A session knows of the stories of a party's calls what is in the slots of the party, where its tasks
stand, and which number comes next. Every move that adds to a story changes just that, and no other
move does.

## Main definitions

* `Session.Ledger`: stories fit the stations and the ends
* `Session.Told`: stories fit the session, with its tasks

## Main results

* `Session.Ledger.registered`, `Session.Ledger.delivered`, `Session.Ledger.returned`: how stories go
  on
* `Session.Ledger.answered`: a question of a task is answered
* `Session.Told.moved`, `Session.Told.run?`: stories and session fit together after every move, and
  after moves one after another
-/

namespace RoundTable

variable {ρ : Type} {party : Party} {log log' : List Incident} {incident : Incident} {call : CallId}
  {place : LinkEnd} {value : Reply}

/-! ### Sessions -/

namespace Session

/-- Stories fit what there is at the stations and the ends; the next number of the party is
given. -/
structure Ledger (party : Party) (log : List Incident) (next : Nat) (session : Session ρ) :
    Prop where
  /-- The next number is the one that the party's station knows. -/
  nextCall : session.nextCall? party = some next
  /-- Numbers that have not been given out have no story. -/
  fresh : Fresh party log next
  /-- A story may break off, but takes no other turn. -/
  whole : ∀ call, ∃ place value, place.owner = party ∧
    story party log call <+: wholeStory place call value
  /-- The slots of the party fit the stories. -/
  slots : ∀ place slot, place.owner = party → session.slot? place = some slot →
    slot.Told party log place
  /-- What executors do is orderly. -/
  executes : ∀ other execute, session.execute? other = some execute →
    Routine.OrderlyExecutor (.ofParty party) anyFailure execute

/-- Stories and session fit together. -/
structure Told (party : Party) (log : List Incident) (next : Nat) (session : Session ρ) : Prop where
  ledger : session.Ledger party log next
  tasks : TasksTold party log next .free session.tasks

variable {before middle after session : Session ρ} {next : Nat} {task : Task ρ}

/-! ### Questions that are answered -/

/-- What does not show at the stations' numbers and executors, nor at slots of the party. -/
structure SparesCalls (party : Party) (before after : Session ρ) : Prop where
  nextCall : after.nextCall? party = before.nextCall? party
  slot : ∀ place, place.owner = party → after.slot? place = before.slot? place
  execute : ∀ other, after.execute? other = before.execute? other

theorem SparesCalls.refl (party : Party) (session : Session ρ) :
    SparesCalls party session session :=
  ⟨rfl, fun _ _ => rfl, fun _ => rfl⟩

theorem sparesCalls_modifyStation {other : Party} {change : Station → Station}
    (hnext : other ≠ party) (h : ∀ station, (change station).execute = station.execute) :
    SparesCalls party session (session.modifyStation other change) := by
  refine ⟨?_, fun place _ => ?_, fun another => ?_⟩
  · rw [nextCall?, station?_modifyStation, if_neg hnext.symm]
    rfl
  · rw [slot?, desk?_modifyStation]
    rfl
  · rw [execute?, station?_modifyStation]
    split <;> simp [execute?, Function.comp_def, h]

theorem sparesCalls_modifySlot {place : LinkEnd} {change : Slot → Slot}
    (h : place.owner ≠ party) : SparesCalls party session (session.modifySlot place change) := by
  refine ⟨?_, fun other hother => ?_, fun other => ?_⟩
  · rw [nextCall?, modifySlot, station?_modifyDesk]
    rfl
  · rw [slot?_modifySlot, if_neg]
    rintro rfl
    exact h hother
  · rw [execute?, modifySlot, station?_modifyDesk]
    rfl

theorem sparesCalls_modifyDesk {place : LinkEnd} {change : Desk → Desk}
    (h : ∀ desk, (change desk).slot = desk.slot) :
    SparesCalls party session (session.modifyDesk place change) := by
  refine ⟨?_, fun other _ => slot?_modifyDesk session place other h, fun other => ?_⟩
  · rw [nextCall?, station?_modifyDesk]
    rfl
  · rw [execute?, station?_modifyDesk]
    rfl

theorem sparesCalls_push? {place : LinkEnd} {command : Command} {sent : Bool}
    (h : session.push? place command = some (after, sent)) : SparesCalls party session after := by
  obtain rfl | rfl := eq_of_push? h
  · exact .refl party _
  · exact sparesCalls_modifyDesk fun _ => rfl

theorem sparesCalls_perform? {effect : Effect} {answer : effect.Answer}
    (hspares : effect.Spares party) (h : session.perform? effect = some (after, answer)) :
    SparesCalls party session after ∧
      ∀ incident ∈ Incident.ofAnswer? effect answer, incident.place.owner ≠ party := by
  have hquiet : ∀ incident ∈ (none : Option Incident), incident.place.owner ≠ party :=
    fun incident h => absurd h (Option.not_mem_none incident)
  cases effect with
  | observe | apply | applyOr | confirm | isLinked =>
    cases h
    exact ⟨⟨rfl, fun _ _ => rfl, fun _ => rfl⟩, hquiet⟩
  | number other =>
    cases h
    exact ⟨sparesCalls_modifyStation hspares fun _ => rfl, hquiet⟩
  | cancel place call =>
    cases h
    exact ⟨sparesCalls_modifySlot hspares, hquiet⟩
  | crash => cases h
  | send place command => exact ⟨sparesCalls_push? h, hquiet⟩
  | await place call =>
    rw [perform?] at h
    split at h
    · cases h
      exact ⟨.refl party _, hquiet⟩
    · obtain ⟨reply, -, heq⟩ := Option.map_eq_some_iff.mp h
      cases heq
      refine ⟨.refl party _, ?_⟩
      cases answer <;> rintro _ ⟨⟩
      exact hspares
  | register place call =>
    obtain ⟨failure, rfl, rfl⟩ | ⟨rfl, slot, -, -, rfl⟩ := register_cases h
    · exact ⟨.refl party _, hquiet⟩
    · refine ⟨sparesCalls_modifySlot hspares, ?_⟩
      rintro _ ⟨⟩
      exact hspares

/-! ### Ledgers -/

namespace Ledger

theorem spared (h : before.Ledger party log next) (hspares : SparesCalls party before after)
    (hstory : ∀ call, story party log' call = story party log call) :
    after.Ledger party log' next where
  nextCall := hspares.nextCall.trans h.nextCall
  fresh call hcall := (hstory call).trans (h.fresh call hcall)
  whole call := by
    rw [hstory]
    exact h.whole call
  slots place slot howner hslot := by
    rw [hspares.slot place howner] at hslot
    exact (h.slots place slot howner hslot).congr (fun _ _ => hstory _) fun _ _ => hstory _
  executes other execute hexecute := by
    rw [hspares.execute] at hexecute
    exact h.executes other execute hexecute

/-- A slot changes, and the stories with it. -/
theorem modifySlot (h : before.Ledger party log next) {place : LinkEnd}
    (howner : place.owner = party)
    {change : Slot → Slot} (hfresh : Fresh party log' next)
    (hwhole : ∀ call, ∃ place value, place.owner = party ∧
      story party log' call <+: wholeStory place call value)
    (hslot : ∀ slot, before.slot? place = some slot → slot.Told party log place →
      (change slot).Told party log' place)
    (hother : ∀ (other : LinkEnd) (slot : Slot), other.owner = party → other ≠ place →
      slot.Told party log other → slot.Told party log' other) :
    (before.modifySlot place change).Ledger party log' next where
  nextCall := by
    rw [nextCall?, Session.modifySlot, station?_modifyDesk]
    exact h.nextCall
  fresh := hfresh
  whole := hwhole
  slots other slot hown hslot' := by
    rw [slot?_modifySlot] at hslot'
    split at hslot'
    case isTrue heq =>
      subst heq
      obtain ⟨earlier, hearlier, rfl⟩ := Option.map_eq_some_iff.mp hslot'
      exact hslot earlier hearlier (h.slots other earlier howner hearlier)
    case isFalse hne => exact hother other slot hown hne (h.slots other slot hown hslot')
  executes other execute hexecute := by
    rw [execute?, Session.modifySlot, station?_modifyDesk] at hexecute
    exact h.executes other execute hexecute

theorem loses {why : SessionError → Prop} (h : before.Ledger party log next)
    (hloses : Loses why before after) : after.Ledger party log next where
  nextCall := by
    obtain ⟨station, hstation, hnext⟩ := Option.map_eq_some_iff.mp h.nextCall
    have hrel := hloses.station party
    rw [hstation] at hrel
    generalize hafter : after.station? party = o at hrel
    cases hrel with
    | some hstation' => simp [nextCall?, hafter, hstation'.nextCall, hnext]
  fresh := h.fresh
  whole := h.whole
  slots place slot howner hslot := by
    obtain ⟨desk, hdesk, rfl⟩ := Option.map_eq_some_iff.mp hslot
    obtain ⟨earlier, hearlier, hdesk'⟩ := hloses.exists_desk hdesk
    refine (h.slots place earlier.slot howner ?_).loses hdesk'.slot
    simp [slot?, hearlier]
  executes other execute hexecute := by
    obtain ⟨station, hstation, rfl⟩ := Option.map_eq_some_iff.mp hexecute
    obtain ⟨earlier, hearlier, hstation'⟩ := hloses.exists_station hstation
    refine h.executes other _ ?_
    simp [execute?, hearlier, hstation'.execute]

theorem lt_of_story_ne_nil (h : session.Ledger party log next)
    (hstory : story party log call ≠ []) : call.number < next :=
  Nat.lt_of_not_le fun hge => hstory (h.fresh call hge)

/-- A story goes on by an incident that may come next. -/
theorem append (h : session.Ledger party log next) (incident : Incident) (value : Reply)
    (howner : incident.place.owner = party)
    (hlt : incident.call.number < next)
    (hwhole : story party log incident.call ++ [incident] <+:
      wholeStory incident.place incident.call value) :
    Fresh party (log ++ [incident]) next ∧ ∀ call, ∃ place value, place.owner = party ∧
      story party (log ++ [incident]) call <+: wholeStory place call value := by
  refine ⟨fun call hcall => ?_, fun call => ?_⟩
  · rw [story_append_of_ne]
    · exact h.fresh call hcall
    · rintro rfl
      exact absurd hlt (Nat.not_lt.mpr hcall)
  · by_cases hcall : incident.call = call
    · subst hcall
      rw [story_append_self incident howner]
      exact ⟨incident.place, value, howner, hwhole⟩
    · rw [story_append_of_ne hcall]
      exact h.whole call

/-- A call registers. -/
theorem registered (h : session.Ledger party log next) (howner : place.owner = party)
    (hlt : call.number < next) (hstory : story party log call = []) {slot : Slot}
    (hslot : session.slot? place = some slot) :
    (session.modifySlot place fun _ => { slot with waiter := some ⟨call, true⟩ }).Ledger party
      (log ++ [.registered place call]) next := by
  have hself : story party (log ++ [.registered place call]) call = [.registered place call] := by
    refine (story_append_self (.registered place call) howner).trans ?_
    exact congrArg (· ++ _) hstory
  have hwhole : story party log call ++ [.registered place call] <+:
      wholeStory place call .unit := by
    rw [hstory]
    exact ⟨_, rfl⟩
  -- what is mentioned in a slot has a story, so it is not about this call
  have hother (other : LinkEnd) (slot : Slot) (htold : slot.Told party log other) :
      slot.Told party (log ++ [.registered place call]) other := by
    refine htold.congr (fun waiter hwaiter => story_append_of_ne ?_) fun entry hentry =>
      story_append_of_ne ?_
    · rintro rfl
      exact absurd (hstory.symm.trans (htold.waiter waiter hwaiter)) nofun
    · rintro rfl
      obtain hentry | hentry := htold.handed entry hentry <;> cases hstory.symm.trans hentry
  obtain ⟨hfresh, hwhole⟩ := h.append (.registered place call) .unit howner hlt hwhole
  refine h.modifySlot howner hfresh hwhole (fun earlier hearlier htold => ?_)
    fun other slot _ _ htold => hother other slot htold
  cases hslot.symm.trans hearlier
  refine ⟨?_, (hother place slot htold).handed⟩
  rintro _ ⟨⟩
  exact hself

/-- A result is delivered. -/
theorem delivered (h : session.Ledger party log next) (howner : place.owner = party) {slot : Slot}
    (hslot : session.slot? place = some slot) (hlive : slot.live? = some call) :
    (session.modifySlot place fun slot => (slot.deliver call value).1).Ledger party
      (log ++ [.delivered place call value]) next := by
  obtain ⟨waiter, hfilter, rfl⟩ := Option.map_eq_some_iff.mp hlive
  obtain ⟨hwaiter, hislive⟩ := Option.filter_eq_some_iff.mp hfilter
  have hstory := (h.slots place slot howner hslot).waiter waiter hwaiter
  have hself : story party (log ++ [.delivered place waiter.call value]) waiter.call =
      [.registered place waiter.call, .delivered place waiter.call value] := by
    refine (story_append_self (.delivered place waiter.call value) howner).trans ?_
    exact congrArg (· ++ _) hstory
  have hwhole : story party log waiter.call ++ [.delivered place waiter.call value] <+:
      wholeStory place waiter.call value := by
    rw [hstory]
    exact ⟨_, rfl⟩
  have hhanded (other : LinkEnd) (slot : Slot) (htold : slot.Told party log other) :
      ∀ entry ∈ slot.handed, story party (log ++ [.delivered place waiter.call value]) entry.1 =
        story party log entry.1 := by
    refine fun entry hentry => story_append_of_ne ?_
    intro heq
    rw [show waiter.call = entry.1 from heq] at hstory
    obtain hentry | hentry := htold.handed entry hentry <;> cases hstory.symm.trans hentry
  have hlt : waiter.call.number < next := by
    refine h.lt_of_story_ne_nil ?_
    rw [hstory]
    nofun
  obtain ⟨hfresh, hwhole⟩ := h.append (.delivered place waiter.call value) value howner hlt hwhole
  refine h.modifySlot howner hfresh hwhole (fun earlier hearlier htold => ?_)
    fun other slot _ hne htold =>
      htold.congr (fun w hw => story_append_of_ne ?_) (hhanded other slot htold)
  · cases hslot.symm.trans hearlier
    rw [Slot.deliver, hwaiter]
    simp only [hislive, if_true]
    refine ⟨fun other h => absurd h (Option.not_mem_none other), fun entry hentry => ?_⟩
    obtain hentry | hentry := List.mem_append.mp hentry
    · rw [hhanded place slot htold entry hentry]
      exact htold.handed entry hentry
    · rw [List.mem_singleton.mp hentry]
      exact .inl hself
  · intro heq
    have hw := htold.waiter w hw
    rw [← show waiter.call = w.call from heq, hstory] at hw
    cases hw
    exact hne rfl

/-- A call returns. -/
theorem returned (h : session.Ledger party log next) (howner : place.owner = party)
    (hstory : story party log call = [.registered place call, .delivered place call value]) :
    session.Ledger party (log ++ [.returned place call value]) next := by
  have hself : story party (log ++ [.returned place call value]) call =
      wholeStory place call value := by
    refine (story_append_self (.returned place call value) howner).trans ?_
    exact congrArg (· ++ _) hstory
  have hwhole : story party log call ++ [.returned place call value] <+:
      wholeStory place call value := by
    rw [hstory]
    exact List.prefix_rfl
  have hlt : call.number < next := by
    refine h.lt_of_story_ne_nil ?_
    rw [hstory]
    nofun
  obtain ⟨hfresh, hwhole⟩ := h.append (.returned place call value) value howner hlt hwhole
  refine ⟨h.nextCall, hfresh, hwhole, fun other slot hown hslot => ?_, h.executes⟩
  have htold := h.slots other slot hown hslot
  refine ⟨fun waiter hwaiter => ?_, fun entry hentry => ?_⟩
  · rw [story_append_of_ne]
    · exact htold.waiter waiter hwaiter
    · rintro rfl
      cases hstory.symm.trans (htold.waiter waiter hwaiter)
  · by_cases hcall : call = entry.1
    · subst hcall
      obtain hentry | hentry := htold.handed entry hentry <;> cases hstory.symm.trans hentry
      exact .inr hself
    · have hne : Incident.call (.returned place call value) ≠ entry.1 := hcall
      rw [story_append_of_ne hne]
      exact htold.handed entry hentry

end Ledger

/-! ### Questions in a call -/

/-- A task has been answered and is about to come back to the others: stories and session fit
together, and so does the stage that it goes on from. -/
def Resumes (party : Party) (log : List Incident) (S : Activity ρ → CallStage → Prop)
    (session : Session ρ) (activity : Activity ρ) : Prop :=
  ∃ next stage, session.Ledger party log next ∧ TasksTold party log next stage session.tasks ∧
    stage.Told party log next ∧ S activity stage

variable {S : Activity ρ → CallStage → Prop} {stage : CallStage} {action : Request}

/-- A call gets a number that has not been given out. -/
theorem Ledger.number (h : session.Ledger party log next)
    (htasks : TasksTold party log next .free session.tasks) (howner : place.owner = party)
    {goOn : CallId → Activity ρ}
    (hnext : ∀ call, S (goOn call) (.numbered place call action)) {answer : CallId}
    (hperform : session.perform? (.number place.owner) = some (after, answer)) :
    Resumes party log S after (goOn answer) := by
  cases hperform
  obtain ⟨station, hstation, rfl⟩ := Option.map_eq_some_iff.mp h.nextCall
  rw [howner, hstation]
  refine ⟨station.nextCall + 1, .numbered place ⟨station.nextCall⟩ action, ?_, ?_, ?_, hnext _⟩
  · refine ⟨?_, fun call hcall => h.fresh call (Nat.le_of_succ_le hcall), h.whole, ?_, ?_⟩
    · rw [nextCall?, station?_modifyStation, if_pos rfl, hstation]
      rfl
    · intro place slot howner hslot
      rw [slot?, desk?_modifyStation] at hslot
      exact h.slots place slot howner hslot
    · intro other execute hexecute
      refine h.executes other execute ?_
      rw [execute?, station?_modifyStation] at hexecute
      split at hexecute
      · simpa [execute?, Function.comp_def] using hexecute
      · exact hexecute
  · rw [tasks_modifyStation]
    refine (htasks.start h.fresh ?_).congr (Nat.le_succ _) fun _ _ => rfl
    rintro _ ⟨⟩
    exact Nat.le_refl _
  · exact ⟨howner, Nat.lt_succ_self _, h.fresh _ (Nat.le_refl _)⟩

/-- A call with a number registers, or is refused. -/
theorem Ledger.register (h : session.Ledger party log next) {call : CallId}
    (hstage : (CallStage.numbered place call action).Told party log next)
    (htasks : TasksTold party log next (.numbered place call action) session.tasks)
    {goOn : Except Failure Unit → Activity ρ}
    (hok : S (goOn (.ok ())) (.registered place call action))
    (herror : ∀ failure, S (goOn (.error failure)) .free) {answer : Except Failure Unit}
    (hperform : session.perform? (.register place call) = some (after, answer)) :
    Resumes party (log ++ (Incident.ofAnswer? (.register place call) answer).toList) S after
      (goOn answer) := by
  have hsame := (keeps_perform? hperform).1
  obtain ⟨howner, hlt, hnone⟩ := hstage
  obtain ⟨failure, rfl, rfl⟩ | ⟨rfl, slot, hslot, -, rfl⟩ := register_cases hperform
  · simp only [Incident.ofAnswer?, Option.toList_none, List.append_nil]
    exact ⟨next, .free, h, htasks.goOn nofun, trivial, herror failure⟩
  · have hself : story party (log ++ [.registered place call]) call =
        [.registered place call] := by
      refine (story_append_self (.registered place call) howner).trans ?_
      exact congrArg (· ++ _) hnone
    refine ⟨next, .registered place call action, h.registered howner hlt hnone hslot, ?_,
      ⟨howner, .inl hself⟩, hok⟩
    rw [hsame]
    exact (htasks.goOn fun _ h => h).congr (Nat.le_refl next) fun other hother =>
      story_append_of_ne fun heq => hother (congrArg some heq)

/-- What a call returns with has been delivered to it. -/
theorem Ledger.story_of_answer? (h : session.Ledger party log next) (howner : place.owner = party)
    (hunderway : IsUnderway party log place call) {slot : Slot}
    (hslot : session.slot? place = some slot) (hanswer : slot.answer? call = some (.ok value)) :
    story party log call = [.registered place call, .delivered place call value] := by
  rw [Slot.answer?] at hanswer
  split at hanswer
  case h_2 => split at hanswer <;> cases hanswer
  case h_1 entry hentry =>
    cases hanswer
    have hcall : entry.1 = call := by simpa using List.find?_some hentry
    have htold := (h.slots place slot howner hslot).handed entry (List.mem_of_find?_eq_some hentry)
    rw [hcall] at htold
    obtain hstory | hstory := htold
    · exact hstory
    · -- the call has not returned yet
      obtain hunderway | ⟨_, hunderway⟩ := hunderway <;> cases hstory.symm.trans hunderway

/-- A call returns. -/
theorem Ledger.await (h : session.Ledger party log next) {call : CallId}
    (hstage : (CallStage.waiting place call action).Told party log next)
    (htasks : TasksTold party log next (.waiting place call action) session.tasks)
    {goOn : Except Failure Reply → Activity ρ} (hnext : ∀ reply, S (goOn reply) .free)
    {answer : Except Failure Reply}
    (hperform : session.perform? (.await place call) = some (after, answer)) :
    Resumes party (log ++ (Incident.ofAnswer? (.await place call) answer).toList) S after
      (goOn answer) := by
  obtain ⟨howner, hunderway⟩ := hstage
  have hleave : TasksTold party log next .free session.tasks := htasks.goOn nofun
  rw [perform?] at hperform
  split at hperform
  case h_1 =>
    cases hperform
    simp only [Incident.ofAnswer?, Option.toList_none, List.append_nil]
    exact ⟨next, .free, h, hleave, trivial, hnext _⟩
  case h_2 desk hdesk =>
    obtain ⟨reply, hanswer, heq⟩ := Option.map_eq_some_iff.mp hperform
    cases heq
    cases answer with
    | error failure =>
      simp only [Incident.ofAnswer?, Option.toList_none, List.append_nil]
      exact ⟨next, .free, h, hleave, trivial, hnext _⟩
    | ok value =>
      have hstory := h.story_of_answer? howner hunderway (congrArg _ hdesk) hanswer
      have hother (other : CallId) (hne : other ∉ some call) :
          story party (log ++ [.returned place call value]) other = story party log other :=
        story_append_of_ne fun heq : call = other => hne (congrArg some heq)
      exact ⟨next, .free, h.returned howner hstory,
        (htasks.congr (Nat.le_refl next) hother).goOn nofun, trivial, hnext _⟩

/-- **A question of a task is answered.** -/
theorem Ledger.answered (h : session.Ledger party log next)
    (htasks : TasksTold party log next stage session.tasks)
    (hstage : stage.Told party log next) {effect : Effect} {goOn : effect.Answer → Activity ρ}
    (hasks : Routine.Asks (.ofParty party) S stage effect goOn) {answer : effect.Answer}
    (hperform : session.perform? effect = some (after, answer)) :
    Resumes party (log ++ (Incident.ofAnswer? effect answer).toList) S after (goOn answer) := by
  have hsame := (keeps_perform? hperform).1
  cases hasks with
  | spare hspares hnext =>
    obtain ⟨hspares, hforeign⟩ := sparesCalls_perform? hspares hperform
    have hstory (call : CallId) :
        story party (log ++ (Incident.ofAnswer? effect answer).toList) call =
          story party log call := by
      cases hincident : Incident.ofAnswer? effect answer with
      | none => rw [Option.toList_none, List.append_nil]
      | some incident => exact story_append_of_owner_ne (hforeign incident hincident) call
    refine ⟨next, .free, h.spared hspares hstory, ?_, trivial, hnext answer⟩
    rw [hsame]
    exact htasks.congr (Nat.le_refl next) fun call _ => hstory call
  | number howner hnext =>
    simp only [Incident.ofAnswer?, Option.toList_none, List.append_nil]
    exact h.number htasks howner hnext hperform
  | register hok herror => exact h.register hstage htasks hok (fun _ => herror _ trivial) hperform
  | @send place call action goOn hsent hunsent =>
    have hledger : after.Ledger party log next :=
      h.spared (sparesCalls_push? hperform) fun _ => rfl
    simp only [Incident.ofAnswer?, Option.toList_none, List.append_nil]
    rw [Resumes, hsame]
    cases answer with
    | true =>
      exact ⟨next, .waiting place call action, hledger, htasks.goOn fun _ h => h, hstage, hsent⟩
    | false =>
      exact ⟨next, .withdrawing place call action, hledger, htasks.goOn fun _ h => h, hstage,
        hunsent⟩
  | await hreply => exact h.await hstage htasks (fun _ => hreply _ trivial) hperform
  | @cancel place call action goOn hnext =>
    cases hperform
    simp only [Incident.ofAnswer?, Option.toList_none, List.append_nil]
    rw [Resumes, hsame]
    have hloses : Loses (fun _ => True) session
        (session.modifySlot place fun slot => slot.cancel call) :=
      loses_modifySlot fun slot => .cancel slot call
    exact ⟨next, .free, h.loses hloses, htasks.goOn nofun, trivial, hnext trivial⟩

/-! ### Moves -/

theorem sparesCalls_of_desk_station (hdesk : ∀ place, after.desk? place = before.desk? place)
    (hstation : ∀ other, after.station? other = before.station? other) :
    SparesCalls party before after := by
  refine ⟨?_, fun place _ => ?_, fun other => ?_⟩
  · rw [nextCall?, hstation]
    rfl
  · rw [slot?, hdesk]
    rfl
  · rw [execute?, hstation]
    rfl

theorem Told.loses {why : SessionError → Prop} (h : before.Told party log next)
    (hloses : Loses why before after) : after.Told party log next :=
  ⟨h.ledger.loses hloses, h.tasks.sublist hloses.tasks⟩

theorem Told.spared (h : before.Told party log next) (hspares : SparesCalls party before after)
    (htasks : after.tasks = before.tasks) : after.Told party log next :=
  ⟨h.ledger.spared hspares fun _ => rfl, htasks ▸ h.tasks⟩

/-- A task comes back, or a new one comes. -/
theorem Ledger.queueTask (h : session.Ledger party log next)
    (htasks : TasksTold party log next stage session.tasks) (htold : stage.Told party log next)
    {task : Task ρ} (hstands : task.activity.Stands party stage) :
    (session.queueTask task).Told party log next := by
  have hspares : SparesCalls party session (session.queueTask task) :=
    sparesCalls_of_desk_station (desk?_queueTask session task) (station?_queueTask session task)
  exact ⟨h.spared hspares fun _ => rfl, htasks.put hstands htold⟩

theorem Told.spawn (h : session.Told party log next) {activity : Activity ρ}
    (hstands : activity.Stands party .free) : (session.spawn activity).Told party log next := by
  have hspares : SparesCalls party session (session.spawn activity) :=
    sparesCalls_of_desk_station (desk?_spawn session activity) (station?_spawn session activity)
  exact ⟨h.ledger.spared hspares fun _ => rfl, h.tasks.put hstands trivial⟩

/-- A result is delivered to the call that waits for it, if there is one. -/
theorem Told.deliver (h : session.Told party log next) {slot : Slot}
    (hslot : session.slot? place = some slot) (call : CallId) (value : Reply) :
    (session.modifySlot place fun slot => (slot.deliver call value).1).Told party
      (log ++ (if slot.live? = some call then some (Incident.delivered place call value)
        else none).toList) next := by
  have hsame : (session.modifySlot place fun slot => (slot.deliver call value).1).tasks =
      session.tasks := tasks_modifyDesk session place _
  split
  case isTrue hlive =>
    by_cases howner : place.owner = party
    · have hstory := (h.ledger.slots place slot howner hslot).story_of_live? hlive
      refine ⟨h.ledger.delivered howner hslot hlive, ?_⟩
      rw [hsame]
      exact h.tasks.delivered howner hstory
    · have hforeign : (Incident.delivered place call value).place.owner ≠ party := howner
      have hstory := @story_append_of_owner_ne party log _ hforeign
      refine ⟨h.ledger.spared (sparesCalls_modifySlot howner) hstory, ?_⟩
      rw [hsame]
      exact h.tasks.congr (Nat.le_refl next) fun other _ => hstory other
  case isFalse hlive =>
    rw [Option.toList_none, List.append_nil]
    have hloses : Loses (fun _ => True) session
        (session.modifySlot place fun slot => (slot.deliver call value).1) := by
      refine loses_modifyDesk fun desk hdesk => .of_slot ?_
      have hsame : slot = desk.slot := by
        rw [slot?, hdesk] at hslot
        exact (Option.some.inj hslot).symm
      rw [hsame] at hlive
      exact .deliver hlive value
    exact h.loses hloses

/-- **Whatever a move does, stories and session fit together.** -/
theorem Told.moved (h : before.Told party log next) {move : Move ρ} {incident : Option Incident}
    (hmoved : Moved before move incident after) (horderly : move.IsOrderly party) :
    ∃ next, after.Told party (log ++ incident.toList) next := by
  cases hmoved with
  | @answered _ task effect goOn middle answer mem asks answers =>
    obtain ⟨stage, hstands, hstage, htasks⟩ := h.tasks.take mem
    have hledger : (before.withoutTask task.id).Ledger party log next :=
      h.ledger.loses (loses_withoutTask (fun _ => True) before task.id)
    obtain ⟨next, stage, hledger, htasks, hstage, hstands⟩ :=
      hledger.answered htasks hstage (hstands.asks asks) answers
    exact ⟨next, hledger.queueTask htasks hstage hstands⟩
  | @ended _ task number holder result mem done =>
    rw [Option.toList_none, List.append_nil]
    have hwithout := h.loses (loses_withoutTask (fun _ => True) before task.id)
    refine ⟨next, hwithout.spared ?_ rfl⟩
    exact sparesCalls_of_desk_station (desk?_endJob _ _ _) (station?_endJob _ _ _)
  | @joined _ task router result mem done =>
    rw [Option.toList_none, List.append_nil]
    have hwithout := h.loses (loses_withoutTask (fun _ => True) before task.id)
    exact ⟨next, hwithout.loses (loses_join _ router result)⟩
  | @delegated place station desk origin call action hstation hdesk arrived =>
    rw [Option.toList_none, List.append_nil]
    have htaken : (before.taken place).Told party log next :=
      h.spared (sparesCalls_modifyDesk fun _ => rfl) (tasks_modifyDesk before place _)
    have hexecute := h.ledger.executes place.owner station.execute (congrArg _ hstation)
    refine ⟨next, htaken.spawn ?_⟩
    exact (Routine.stands_delegated trivial (fun _ _ => trivial) hexecute _).mono fun _ _ => trivial
  | @resulted place desk origin call value hdesk arrived =>
    have htaken : (before.taken place).Told party log next :=
      h.spared (sparesCalls_modifyDesk fun _ => rfl) (tasks_modifyDesk before place _)
    have hslot : (before.taken place).slot? place = some desk.slot := by
      rw [slot?_taken, slot?, hdesk]
      rfl
    exact ⟨next, htaken.deliver hslot call value⟩
  | @started holder routine =>
    rw [Option.toList_none, List.append_nil]
    have hstarted : Told party log next { before with started := before.started + 1 } :=
      h.spared ⟨rfl, fun _ _ => rfl, fun _ => rfl⟩ rfl
    exact ⟨next, hstarted.spawn horderly⟩
  | @pushed place command after sent hpush =>
    rw [Option.toList_none, List.append_nil]
    have hsend : before.perform? (.send place command) = some (after, sent) := hpush
    exact ⟨next, h.spared (sparesCalls_push? hpush) (keeps_perform? hsend).1⟩
  | @applied event =>
    rw [Option.toList_none, List.append_nil]
    refine ⟨next, h.spared ?_ rfl⟩
    exact ⟨rfl, fun _ _ => rfl, fun _ => rfl⟩
  | lost hloses =>
    rw [Option.toList_none, List.append_nil]
    exact ⟨next, h.loses hloses⟩

/-- **Stories and session fit together after any moves.** -/
theorem Told.run? {moves : List (Move ρ)} (h : before.Told party log next)
    (horderly : ∀ move ∈ moves, move.IsOrderly party) (hrun : before.run? moves = some after) :
    ∃ next, after.Told party (log ++ before.log moves) next := by
  refine logged_of_run? (fun log session => ∃ next, session.Told party log next)
    (fun move hmem {_ _ _} h hmove => ?_) ⟨next, h⟩ hrun
  obtain ⟨next, h⟩ := h
  exact h.moved (moved_of_move? hmove) (horderly move hmem)

end Session

end RoundTable
