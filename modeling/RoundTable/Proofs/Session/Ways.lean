import RoundTable.Proofs.Session.Histories

/-!
# Ways of tasks

Each task of a session has begun with one entry of the record, and has been on its way through its
questions since then; what it is about to do is what is left after its history. A walk that is not
there any more is over, unless its router has been cut short.

## Main definitions

* `Chronicle.begun`, `Chronicle.history`: the tasks of a record and the history of each
* `Activity.Goes`: what is left of a task after a history
* `Session.Recorded`, `Session.Traced`: sessions whose tasks are as the record says

## Main results

* `Activity.Goes.may_walk`, `Activity.Goes.may_job`: what walks and jobs are about to ask they may
* `Session.Recorded.occurs`, `Session.Traced.occurs`: after a move they are again
-/

namespace RoundTable

variable {ρ : Type}

/-! ### What records say -/

/-- The task that begins with an occurrence. -/
def Occurrence.begun? : Occurrence ρ → Option Nat
  | received _ (.delegate _ _ _) walk => some walk
  | started task _ => some task
  | _ => none

/-- A question of the given task that is answered. -/
def Occurrence.exchangeOf? (task : Nat) : Occurrence ρ → Option Exchange
  | answered other exchange => if other = task then some exchange else none
  | _ => none

theorem Occurrence.eq_answered {task : Nat} {occurrence : Occurrence ρ} {exchange : Exchange}
    (h : occurrence.exchangeOf? task = some exchange) : occurrence = .answered task exchange := by
  cases occurrence with
  | answered other _ =>
    rw [exchangeOf?] at h
    split at h
    case isTrue heq =>
      cases h
      rw [heq]
    case isFalse => cases h
  | _ => cases h

namespace Chronicle

/-- The tasks that have begun. -/
def begun (chronicle : Chronicle ρ) : List Nat := chronicle.filterMap Occurrence.begun?

/-- The history of a task. -/
def history (chronicle : Chronicle ρ) (task : Nat) : List Exchange :=
  chronicle.filterMap (Occurrence.exchangeOf? task)

variable {chronicle : Chronicle ρ} {occurrence : Occurrence ρ} {task : Nat}

theorem begun_concat (chronicle : Chronicle ρ) (occurrence : Occurrence ρ) :
    begun (chronicle ++ [occurrence]) = begun chronicle ++ occurrence.begun?.toList := by
  rw [begun, List.filterMap_append]
  cases h : occurrence.begun? <;> simp [begun, h]

theorem history_concat (chronicle : Chronicle ρ) (occurrence : Occurrence ρ) (task : Nat) :
    history (chronicle ++ [occurrence]) task =
      history chronicle task ++ (occurrence.exchangeOf? task).toList := by
  rw [history, List.filterMap_append]
  cases h : occurrence.exchangeOf? task <;> simp [history, h]

theorem mem_history {exchange : Exchange} :
    exchange ∈ history chronicle task ↔ .answered task exchange ∈ chronicle := by
  rw [history, List.mem_filterMap]
  constructor
  · rintro ⟨occurrence, hmem, hexchange⟩
    exact Occurrence.eq_answered hexchange ▸ hmem
  · exact fun hmem => ⟨_, hmem, if_pos rfl⟩

end Chronicle

theorem Occurrence.Begins.begun? {execute? : Party → Option (Executor Routine)}
    {occurrence : Occurrence ρ} {task : Nat} {activity : Activity ρ}
    (h : occurrence.Begins execute? task activity) : occurrence.begun? = some task := by
  cases h <;> rfl

theorem Occurrence.Begins.mem_begun {execute? : Party → Option (Executor Routine)}
    {chronicle : Chronicle ρ} {occurrence : Occurrence ρ} {task : Nat} {activity : Activity ρ}
    (h : occurrence.Begins execute? task activity) (hmem : occurrence ∈ chronicle) :
    task ∈ chronicle.begun :=
  List.mem_filterMap.mpr ⟨occurrence, hmem, h.begun?⟩

/-! ### Ways of tasks -/

/-- After the history, what comes last is left of what a task does. -/
inductive Activity.Goes : Activity ρ → List Exchange → Activity ρ → Prop where
  | walk {router : Party} {routine later : Routine (Except Failure Unit)}
    {history : List Exchange} (h : routine.Goes history later) :
    Goes (.walk router routine) history (.walk router later)
  | job {number : Nat} {holder : Party} {routine later : Routine ρ} {history : List Exchange}
    (h : routine.Goes history later) :
    Goes (.job number holder routine) history (.job number holder later)

theorem Activity.Goes.here (activity : Activity ρ) : activity.Goes [] activity := by
  cases activity with
  | walk router routine => exact .walk (.here routine)
  | job number holder routine => exact .job (.here routine)

theorem Activity.Goes.concat {activity later : Activity ρ} {history : List Exchange}
    (h : activity.Goes history later) {effect : Effect} {goOn : effect.Answer → Activity ρ}
    (hquestion : later.question? = some ⟨effect, goOn⟩) (answer : effect.Answer) :
    activity.Goes (history ++ [⟨effect, answer⟩]) (goOn answer) := by
  cases h with
  | @walk router routine left history h =>
    cases left with
    | done result => cases hquestion
    | ask effect next =>
      cases hquestion
      exact .walk (h.concat answer)
  | @job number holder routine left history h =>
    cases left with
    | done result => cases hquestion
    | ask effect next =>
      cases hquestion
      exact .job (h.concat answer)

section

variable {may : List Exchange → Effect → Prop} {later : Activity ρ} {history : List Exchange}
  {effect : Effect} {goOn : effect.Answer → Activity ρ}

/-- What a walk is about to ask may be asked after its history. -/
theorem Activity.Goes.may_walk {router : Party} {routine : Routine (Except Failure Unit)}
    {post : List Exchange → Except Failure Unit → Prop}
    (h : (Activity.walk router routine).Goes history later)
    (hproceeds : Routine.Proceeds may post [] routine)
    (hquestion : later.question? = some ⟨effect, goOn⟩) : may history effect := by
  cases h with
  | @walk _ _ left _ hgoes =>
    cases left with
    | done result => cases hquestion
    | ask effect next =>
      cases hquestion
      exact (hproceeds.goes hgoes).may_ask

/-- What a job is about to ask may be asked after its history. -/
theorem Activity.Goes.may_job {number : Nat} {holder : Party} {routine : Routine ρ}
    {post : List Exchange → ρ → Prop} (h : (Activity.job number holder routine).Goes history later)
    (hproceeds : Routine.Proceeds may post [] routine)
    (hquestion : later.question? = some ⟨effect, goOn⟩) : may history effect := by
  cases h with
  | @job _ _ _ left _ hgoes =>
    cases left with
    | done result => cases hquestion
    | ask effect next =>
      cases hquestion
      exact (hproceeds.goes hgoes).may_ask

end

namespace Session

variable {before middle after session : Session ρ} {chronicle : Chronicle ρ}
  {occurrence? : Option (Occurrence ρ)}

/-! ### Numbers -/

/-- Every task has begun, no two of them with the same number, and only tasks that have begun are
answered. -/
structure Recorded (chronicle : Chronicle ρ) (session : Session ρ) : Prop extends
    Numbered session where
  begun_distinct : chronicle.begun.Nodup
  begun_lt : ∀ task ∈ chronicle.begun, task < session.spawned
  tasks : ∀ task ∈ session.tasks, task.id ∈ chronicle.begun
  answered : ∀ task exchange, .answered task exchange ∈ chronicle → task ∈ chronicle.begun

theorem Recorded.history_spawned (h : session.Recorded chronicle) :
    chronicle.history session.spawned = [] := by
  refine List.eq_nil_iff_forall_not_mem.mpr fun exchange hmem => ?_
  have hlt := h.begun_lt _ (h.answered _ _ (Chronicle.mem_history.mp hmem))
  exact Nat.lt_irrefl _ hlt

theorem Numbered.queueTask (h : session.Numbered) {task : Task ρ}
    (hfresh : ∀ other ∈ session.tasks, other.id ≠ task.id) (hlt : task.id < session.spawned) :
    (session.queueTask task).Numbered := by
  refine ⟨?_, fun other hmem => ?_⟩
  · rw [Session.queueTask, List.map_append, List.nodup_append]
    refine ⟨h.distinct, List.nodup_singleton _, fun id hid id' hid' => ?_⟩
    obtain ⟨other, hother, rfl⟩ := List.mem_map.mp hid
    rw [List.mem_singleton.mp hid']
    exact hfresh other hother
  · obtain hmem | hmem := List.mem_append.mp hmem
    · exact h.lt_spawned other hmem
    · rw [List.mem_singleton.mp hmem]
      exact hlt

theorem Numbered.spawn (h : session.Numbered) (activity : Activity ρ) :
    (session.spawn activity).Numbered := by
  have hnext : Numbered { session with spawned := session.spawned + 1 } :=
    ⟨h.distinct, fun task hmem => Nat.lt_succ_of_lt (h.lt_spawned task hmem)⟩
  exact hnext.queueTask (fun other hmem => Nat.ne_of_lt (h.lt_spawned other hmem))
    (Nat.lt_succ_self _)

theorem Numbered.congr (h : before.Numbered) (htasks : after.tasks.Sublist before.tasks)
    (hspawned : after.spawned = before.spawned) : after.Numbered := by
  refine ⟨h.distinct.sublist (htasks.map _), fun task hmem => ?_⟩
  rw [hspawned]
  exact h.lt_spawned task (htasks.subset hmem)

/-- A task that has begun is put among the others. -/
theorem Recorded.spawn (h : session.Recorded chronicle) (activity : Activity ρ)
    {occurrence : Occurrence ρ} (hbegun : occurrence.begun? = some session.spawned)
    (hanswered : ∀ task, occurrence.exchangeOf? task = none) :
    (session.spawn activity).Recorded (chronicle ++ [occurrence]) where
  toNumbered := h.toNumbered.spawn activity
  begun_distinct := by
    rw [Chronicle.begun_concat, hbegun, Option.toList_some, List.nodup_append]
    refine ⟨h.begun_distinct, List.nodup_singleton _, fun task hmem other hother => ?_⟩
    rw [List.mem_singleton.mp hother]
    exact Nat.ne_of_lt (h.begun_lt task hmem)
  begun_lt task hmem := by
    rw [Chronicle.begun_concat, hbegun, Option.toList_some] at hmem
    obtain hmem | hmem := List.mem_append.mp hmem
    · exact Nat.lt_succ_of_lt (h.begun_lt task hmem)
    · rw [List.mem_singleton.mp hmem]
      exact Nat.lt_succ_self _
  tasks task hmem := by
    rw [Chronicle.begun_concat, hbegun, Option.toList_some]
    obtain hmem | hmem := List.mem_append.mp hmem
    · exact List.mem_append_left _ (h.tasks task hmem)
    · rw [List.mem_singleton.mp hmem]
      exact List.mem_append_right _ (List.mem_singleton.mpr rfl)
  answered task exchange hmem := by
    rw [Chronicle.begun_concat]
    obtain hmem | hmem := List.mem_append.mp hmem
    · exact List.mem_append_left _ (h.answered task exchange hmem)
    · have hnone := hanswered task
      rw [← List.mem_singleton.mp hmem, Occurrence.exchangeOf?, if_pos rfl] at hnone
      cases hnone

/-- Nothing begins. -/
theorem Recorded.congr (h : before.Recorded chronicle) {chronicle' : Chronicle ρ}
    (hnumbered : after.Numbered) (hspawned : after.spawned = before.spawned)
    (htasks : ∀ task ∈ after.tasks, ∃ earlier ∈ before.tasks, earlier.id = task.id)
    (hbegun : chronicle'.begun = chronicle.begun)
    (hanswered : ∀ task exchange, .answered task exchange ∈ chronicle' →
      task ∈ chronicle.begun) : after.Recorded chronicle' where
  toNumbered := hnumbered
  begun_distinct := hbegun ▸ h.begun_distinct
  begun_lt := by
    rw [hbegun, hspawned]
    exact h.begun_lt
  tasks task hmem := by
    obtain ⟨earlier, hearlier, hid⟩ := htasks task hmem
    rw [hbegun, ← hid]
    exact h.tasks earlier hearlier
  answered task exchange hmem := hbegun ▸ hanswered task exchange hmem

theorem Recorded.occurs (h : before.Recorded chronicle)
    (hoccurs : Occurs before occurrence? after) :
    after.Recorded (chronicle ++ occurrence?.toList) := by
  cases hoccurs with
  | @answered task effect goOn middle answer mem asks answers =>
    obtain ⟨htasks, hspawned, -⟩ := keeps_perform? answers
    have hwithout : middle.Numbered :=
      h.toNumbered.congr (htasks ▸ List.filter_sublist) hspawned
    refine h.congr (hwithout.queueTask (fun other hother => ?_) ?_) hspawned
      (fun other hother => ?_) ?_ fun other exchange hmem => ?_
    · rw [htasks] at hother
      exact bne_iff_ne.mp (List.mem_filter.mp hother).2
    · rw [hspawned]
      exact h.lt_spawned task mem
    · obtain hother | hother := List.mem_append.mp hother
      · rw [htasks] at hother
        exact ⟨other, (List.mem_filter.mp hother).1, rfl⟩
      · rw [List.mem_singleton.mp hother]
        exact ⟨task, mem, rfl⟩
    · rw [Option.toList_some, Chronicle.begun_concat]
      exact List.append_nil _
    · obtain hmem | hmem := List.mem_append.mp hmem
      · exact h.answered other exchange hmem
      · cases List.mem_singleton.mp hmem
        exact h.tasks task mem
  | @delegated place station desk origin call action =>
    have htasks : (before.taken place).tasks = before.tasks := tasks_modifyDesk ..
    have hspawned : (before.taken place).spawned = before.spawned := spawned_modifyDesk ..
    have htaken : (before.taken place).Recorded chronicle :=
      h.congr (h.toNumbered.congr (htasks ▸ .refl _) hspawned) hspawned
        (fun task hmem => ⟨task, htasks ▸ hmem, rfl⟩) rfl h.answered
    have hbegun : Occurrence.begun? (.received place (.delegate origin call action) before.spawned :
        Occurrence ρ) = some (before.taken place).spawned := by
      rw [hspawned]
      rfl
    exact htaken.spawn _ hbegun fun _ => rfl
  | @resulted place desk origin call value =>
    have htasks : ((before.taken place).modifySlot place fun slot =>
        (slot.deliver call value).1).tasks = before.tasks := by
      rw [modifySlot, tasks_modifyDesk, taken, tasks_modifyDesk]
    have hspawned : ((before.taken place).modifySlot place fun slot =>
        (slot.deliver call value).1).spawned = before.spawned := by
      rw [modifySlot, spawned_modifyDesk, taken, spawned_modifyDesk]
    refine h.congr (h.toNumbered.congr (by rw [htasks]) hspawned) hspawned
      (fun task hmem => ⟨task, htasks ▸ hmem, rfl⟩) ?_ fun task exchange hmem => ?_
    · rw [Option.toList_some, Chronicle.begun_concat]
      exact List.append_nil _
    · obtain hmem | hmem := List.mem_append.mp hmem
      · exact h.answered task exchange hmem
      · cases List.mem_singleton.mp hmem
  | started holder routine =>
    have hnext : Recorded chronicle { before with started := before.started + 1 } :=
      h.congr (h.toNumbered.congr (.refl _) rfl) rfl (fun task hmem => ⟨task, hmem, rfl⟩) rfl
        h.answered
    exact hnext.spawn _ rfl fun _ => rfl
  | passed passes =>
    rw [Option.toList_none, List.append_nil]
    exact h.congr (h.toNumbered.congr passes.tasks passes.spawned) passes.spawned
      (fun task hmem => ⟨task, passes.tasks.subset hmem, rfl⟩) rfl h.answered

/-! ### Ways -/

/-- Every task that has begun has been on its way since, and is there unless it is a walk that is
over or whose router has been cut short, or a job. -/
structure Traced (execute? : Party → Option (Executor Routine)) (chronicle : Chronicle ρ)
    (session : Session ρ) : Prop where
  executes : ∀ party, session.execute? party = execute? party
  begins : ∀ occurrence ∈ chronicle, ∀ task, occurrence.begun? = some task →
    ∃ activity, occurrence.Begins execute? task activity
  goes : ∀ occurrence ∈ chronicle, ∀ task activity, occurrence.Begins execute? task activity →
    ∃ later, activity.Goes (chronicle.history task) later ∧
      ∀ other ∈ session.tasks, other.id = task → other.activity = later
  ends : ∀ occurrence ∈ chronicle, ∀ task router routine,
    occurrence.Begins execute? task (.walk router routine) →
      (∃ other ∈ session.tasks, other.id = task) ∨
      (∃ later, routine.Goes (chronicle.history task) later ∧ later.IsOver) ∨
      ¬session.IsWilling router

variable {execute? : Party → Option (Executor Routine)}

/-- Tasks are dropped. -/
theorem Traced.drops (h : before.Traced execute? chronicle)
    (htasks : ∀ task ∈ after.tasks, task ∈ before.tasks)
    (hexecute : ∀ party, after.execute? party = before.execute? party)
    (hwalks : KeepsWalks before after)
    (hwilling : ∀ party, after.IsWilling party → before.IsWilling party) :
    after.Traced execute? chronicle where
  executes party := (hexecute party).trans (h.executes party)
  begins := h.begins
  goes occurrence hmem task activity hbegins := by
    obtain ⟨later, hgoes, hlater⟩ := h.goes occurrence hmem task activity hbegins
    exact ⟨later, hgoes, fun other hother => hlater other (htasks other hother)⟩
  ends occurrence hmem task router routine hbegins := by
    obtain ⟨other, hother, rfl⟩ | hover | hcut := h.ends occurrence hmem task router routine hbegins
    · obtain ⟨_, hgoes, hlater⟩ := h.goes occurrence hmem _ _ hbegins
      have hactivity := hlater other hother rfl
      cases hgoes with
      | @walk _ _ later _ hgoes =>
        obtain hkept | hover | hcut := hwalks other hother router later hactivity
        · exact .inl ⟨other, hkept, rfl⟩
        · exact .inr (.inl ⟨later, hgoes, hover⟩)
        · exact .inr (.inr hcut)
    · exact .inr (.inl hover)
    · exact .inr (.inr fun hafter => hcut (hwilling router hafter))

/-- Something happens with which no task begins or goes on. -/
theorem Traced.concat (h : session.Traced execute? chronicle) {occurrence : Occurrence ρ}
    (hbegun : occurrence.begun? = none) (hexchange : ∀ task, occurrence.exchangeOf? task = none) :
    session.Traced execute? (chronicle ++ [occurrence]) := by
  have hhistory (task : Nat) :
      Chronicle.history (chronicle ++ [occurrence]) task = chronicle.history task := by
    rw [Chronicle.history_concat, hexchange, Option.toList_none, List.append_nil]
  have hmem {other : Occurrence ρ} {task : Nat} {activity : Activity ρ}
      (hother : other ∈ chronicle ++ [occurrence]) (hbegins : other.Begins execute? task activity) :
      other ∈ chronicle := by
    obtain hother | hother := List.mem_append.mp hother
    · exact hother
    · rw [List.mem_singleton.mp hother] at hbegins
      cases hbegun.symm.trans hbegins.begun?
  refine ⟨h.executes, fun other hother task hsome => ?_,
    fun other hother task activity hbegins => ?_,
    fun other hother task router routine hbegins => ?_⟩
  · obtain hother | hother := List.mem_append.mp hother
    · exact h.begins other hother task hsome
    · rw [List.mem_singleton.mp hother, hbegun] at hsome
      cases hsome
  · rw [hhistory]
    exact h.goes other (hmem hother hbegins) task activity hbegins
  · rw [hhistory]
    exact h.ends other (hmem hother hbegins) task router routine hbegins

/-- A task begins. -/
theorem Traced.spawn (h : session.Traced execute? chronicle)
    (hrecorded : session.Recorded chronicle) {activity : Activity ρ} {occurrence : Occurrence ρ}
    (hbegun : occurrence.Begins execute? session.spawned activity)
    (hbegins : ∀ task other, occurrence.Begins execute? task other →
      task = session.spawned ∧ other = activity)
    (hexchange : ∀ task, occurrence.exchangeOf? task = none) :
    (session.spawn activity).Traced execute? (chronicle ++ [occurrence]) := by
  have hhistory (task : Nat) :
      Chronicle.history (chronicle ++ [occurrence]) task = chronicle.history task := by
    rw [Chronicle.history_concat, hexchange, Option.toList_none, List.append_nil]
  have hold {other : Occurrence ρ} {task : Nat} {activity : Activity ρ} (hother : other ∈ chronicle)
      (hother' : other.Begins execute? task activity) : session.spawned ≠ task :=
    (Nat.ne_of_lt (hrecorded.begun_lt task (hother'.mem_begun hother))).symm
  refine ⟨fun party => ?_, fun other hother task hsome => ?_,
    fun other hother task activity' hother' => ?_,
    fun other hother task router routine hother' => ?_⟩
  · rw [Session.execute?, station?_spawn]
    exact h.executes party
  · obtain hother | hother := List.mem_append.mp hother
    · exact h.begins other hother task hsome
    · rw [List.mem_singleton.mp hother] at hsome ⊢
      cases hbegun.begun?.symm.trans hsome
      exact ⟨activity, hbegun⟩
  · rw [hhistory]
    obtain hother | hother := List.mem_append.mp hother
    · obtain ⟨later, hgoes, hlater⟩ := h.goes other hother task activity' hother'
      refine ⟨later, hgoes, fun there hthere hid => ?_⟩
      obtain hthere | hthere := List.mem_append.mp hthere
      · exact hlater there hthere hid
      · rw [List.mem_singleton.mp hthere] at hid
        exact absurd hid (hold hother hother')
    · rw [List.mem_singleton.mp hother] at hother'
      obtain ⟨rfl, rfl⟩ := hbegins task activity' hother'
      rw [hrecorded.history_spawned]
      refine ⟨_, .here _, fun there hthere hid => ?_⟩
      obtain hthere | hthere := List.mem_append.mp hthere
      · exact absurd hid (Nat.ne_of_lt (hrecorded.lt_spawned there hthere))
      · rw [List.mem_singleton.mp hthere]
  · rw [hhistory]
    obtain hother | hother := List.mem_append.mp hother
    · obtain ⟨there, hthere, hid⟩ | hover | hcut := h.ends other hother task router routine hother'
      · exact .inl ⟨there, List.mem_append_left _ hthere, hid⟩
      · exact .inr (.inl hover)
      · exact .inr (.inr fun hwilling =>
          hcut ((SamePosture.spawn session activity).isWilling.mp hwilling))
    · rw [List.mem_singleton.mp hother] at hother'
      obtain ⟨rfl, -⟩ := hbegins _ _ hother'
      exact .inl ⟨_, List.mem_append_right _ (List.mem_singleton.mpr rfl), rfl⟩

theorem execute?_perform? {effect : Effect} {answer : effect.Answer}
    (h : session.perform? effect = some (after, answer)) (party : Party) :
    after.execute? party = session.execute? party := by
  cases effect with
  | observe | apply | applyOr | confirm | isLinked =>
    cases h
    cases party <;> rfl
  | number other =>
    cases h
    rw [Session.execute?, station?_modifyStation]
    split <;> simp [Session.execute?, Function.comp_def]
  | cancel place call =>
    cases h
    exact congrArg _ (station?_modifyDesk ..)
  | crash => cases h
  | send place command =>
    obtain rfl | rfl := eq_of_push? h
    · rfl
    · exact congrArg _ (station?_modifyDesk ..)
  | await place call =>
    rw [Session.perform?] at h
    split at h
    · cases h
      rfl
    · obtain ⟨answer, -, heq⟩ := Option.map_eq_some_iff.mp h
      cases heq
      rfl
  | register place call =>
    obtain ⟨failure, rfl, rfl⟩ | ⟨rfl, slot, -, -, rfl⟩ := register_cases h
    · rfl
    · exact congrArg _ (station?_modifyDesk ..)

/-- A question of a task is answered. -/
theorem Traced.answered (h : before.Traced execute? chronicle) {task : Task ρ}
    {effect : Effect} {goOn : effect.Answer → Activity ρ} {answer : effect.Answer}
    (mem : task ∈ before.tasks) (asks : task.activity.question? = some ⟨effect, goOn⟩)
    (answers : (before.withoutTask task.id).perform? effect = some (middle, answer))
    (hwilling : ∀ party, (middle.queueTask ⟨task.id, goOn answer,
      pendingAfter task.pending effect answer⟩).IsWilling party → before.IsWilling party) :
    (middle.queueTask ⟨task.id, goOn answer, pendingAfter task.pending effect answer⟩).Traced
      execute? (chronicle ++ [.answered task.id ⟨effect, answer⟩]) := by
  obtain ⟨htasks, -, -⟩ := keeps_perform? answers
  have hmem {other : Occurrence ρ} {begun : Nat} {activity : Activity ρ}
      (hother : other ∈ chronicle ++ [.answered task.id ⟨effect, answer⟩])
      (hbegins : other.Begins execute? begun activity) : other ∈ chronicle := by
    obtain hother | hother := List.mem_append.mp hother
    · exact hother
    · rw [List.mem_singleton.mp hother] at hbegins
      cases hbegins
  have hself : Chronicle.history (chronicle ++ [.answered task.id ⟨effect, answer⟩]) task.id =
      chronicle.history task.id ++ [⟨effect, answer⟩] := by
    rw [Chronicle.history_concat, Occurrence.exchangeOf?, if_pos rfl]
    rfl
  have hothers {begun : Nat} (hne : begun ≠ task.id) :
      Chronicle.history (chronicle ++ [.answered task.id ⟨effect, answer⟩]) begun =
        chronicle.history begun := by
    rw [Chronicle.history_concat, Occurrence.exchangeOf?, if_neg hne.symm]
    exact List.append_nil _
  refine ⟨fun party => ?_, fun other hother begun hsome => ?_,
    fun other hother begun activity hbegins => ?_,
    fun other hother begun router routine hbegins => ?_⟩
  · rw [Session.execute?, station?_queueTask]
    refine (execute?_perform? answers party).trans ?_
    rw [Session.execute?, station?_withoutTask]
    exact h.executes party
  · obtain hother | hother := List.mem_append.mp hother
    · exact h.begins other hother begun hsome
    · rw [List.mem_singleton.mp hother] at hsome
      cases hsome
  · obtain ⟨later, hgoes, hlater⟩ := h.goes other (hmem hother hbegins) begun activity hbegins
    by_cases heq : begun = task.id
    · subst heq
      rw [hself]
      refine ⟨goOn answer, ?_, fun there hthere hid => ?_⟩
      · exact hgoes.concat (hlater task mem rfl ▸ asks) answer
      · obtain hthere | hthere := List.mem_append.mp hthere
        · rw [htasks] at hthere
          exact absurd hid (bne_iff_ne.mp (List.mem_filter.mp hthere).2)
        · rw [List.mem_singleton.mp hthere]
    · rw [hothers heq]
      refine ⟨later, hgoes, fun there hthere hid => ?_⟩
      obtain hthere | hthere := List.mem_append.mp hthere
      · rw [htasks] at hthere
        exact hlater there (List.mem_filter.mp hthere).1 hid
      · rw [List.mem_singleton.mp hthere] at hid
        exact absurd hid.symm heq
  · by_cases heq : begun = task.id
    · exact .inl ⟨_, List.mem_append_right _ (List.mem_singleton.mpr rfl), heq.symm⟩
    · rw [hothers heq]
      obtain ⟨there, hthere, hid⟩ | hover | hcut :=
        h.ends other (hmem hother hbegins) begun router routine hbegins
      · refine .inl ⟨there, List.mem_append_left _ ?_, hid⟩
        rw [htasks]
        exact List.mem_filter.mpr ⟨hthere, bne_iff_ne.mpr (hid ▸ heq)⟩
      · exact .inr (.inl hover)
      · exact .inr (.inr fun hafter => hcut (hwilling router hafter))

/-- What has arrived is taken away, and the slot at that end may change. -/
theorem Traced.modifyDesk (h : session.Traced execute? chronicle) {place : LinkEnd}
    {change : Desk → Desk} (hchange : ∀ desk, (change desk).isListening = desk.isListening) :
    (session.modifyDesk place change).Traced execute? chronicle := by
  have hsame : SamePosture session (session.modifyDesk place change) := .modifyDesk hchange
  have htasks : (session.modifyDesk place change).tasks = session.tasks := tasks_modifyDesk ..
  refine h.drops (fun task hmem => htasks ▸ hmem) (fun party => ?_) (keepsWalks_of_tasks htasks)
    fun party => hsame.isWilling.mp
  exact congrArg _ (station?_modifyDesk ..)

theorem Traced.occurs (h : before.Traced execute? chronicle) (hrecorded : before.Recorded chronicle)
    (hoccurs : Occurs before occurrence? after)
    (hwilling : ∀ party, after.IsWilling party → before.IsWilling party) :
    after.Traced execute? (chronicle ++ occurrence?.toList) := by
  cases hoccurs with
  | answered mem asks answers => exact h.answered mem asks answers hwilling
  | @delegated place station desk origin call action hstation hdesk arrived =>
    have htasks : (before.taken place).tasks = before.tasks := tasks_modifyDesk ..
    have hspawned : (before.taken place).spawned = before.spawned := spawned_modifyDesk ..
    have htaken : (before.taken place).Traced execute? chronicle := h.modifyDesk fun _ => rfl
    have hrecords : (before.taken place).Recorded chronicle :=
      hrecorded.congr (hrecorded.toNumbered.congr (htasks ▸ .refl _) hspawned) hspawned
        (fun task hmem => ⟨task, htasks ▸ hmem, rfl⟩) rfl hrecorded.answered
    have hexecute : execute? place.owner = some station.execute := by
      rw [← h.executes, Session.execute?, hstation, Option.map_some]
    refine htaken.spawn hrecords (hspawned ▸ .walk hexecute) (fun task other hbegins => ?_)
      fun _ => rfl
    cases hbegins with
    | walk hwalk =>
      cases hwalk.symm.trans hexecute
      exact ⟨hspawned.symm, rfl⟩
  | @resulted place desk origin call value hdesk arrived =>
    have htaken : (before.taken place).Traced execute? chronicle := h.modifyDesk fun _ => rfl
    have hdelivered : ((before.taken place).modifySlot place fun slot =>
        (slot.deliver call value).1).Traced execute? chronicle := htaken.modifyDesk fun _ => rfl
    exact hdelivered.concat rfl fun _ => rfl
  | started holder routine =>
    have hnext : Traced execute? chronicle { before with started := before.started + 1 } := by
      refine h.drops (fun _ hmem => hmem) (fun party => by cases party <;> rfl)
        (keepsWalks_of_tasks rfl) fun party hafter => ?_
      rwa [IsWilling, router?, show station? { before with started := before.started + 1 } party =
        before.station? party by cases party <;> rfl] at hafter
    have hrecords : Recorded chronicle { before with started := before.started + 1 } :=
      hrecorded.congr (hrecorded.toNumbered.congr (.refl _) rfl) rfl
        (fun task hmem => ⟨task, hmem, rfl⟩) rfl hrecorded.answered
    refine hnext.spawn hrecords (.job _ _) (fun task other hbegins => ?_) fun _ => rfl
    cases hbegins
    exact ⟨rfl, rfl⟩
  | passed passes =>
    rw [Option.toList_none, List.append_nil]
    exact h.drops (fun task hmem => passes.tasks.subset hmem) passes.execute? passes.walks hwilling

end Session

end RoundTable
