import RoundTable.Proofs.Session.Followed
import RoundTable.Proofs.Table.Errands

/-!
# Sessions and their records

What is recorded of a session says how it has come to be as it is: where its tasks are on their
ways, where the results come from that have been handed to calls, and what the tasks have had done
at the table. Everything that is handed to a call was taken in before, and the table is as the
errands of all tasks, one after another, have left it.

## Main definitions

* `Dealing`, `Chronicle.dealings`: what the tasks have had done at the table
* `Session.Heard`, `Session.Dealt`: results and tables that are as the record says
* `Session.Chronicled`: sessions that are as their record says

## Main results

* `Session.Chronicled.moved`: after a move they are again
* `Session.chronicled_of_run?`: every session is as its record says
-/

namespace RoundTable

variable {ρ : Type}

/-! ### Dealings -/

/-- What a question and its answer have to do with the table: an errand, and what has come of it. -/
def Exchange.dealing? : Exchange → Option (Errand × Except Refusal Finding)
  | ⟨.apply event, answer⟩ =>
    some (.apply event, answer.map fun states => .states states.1 states.2)
  | ⟨.applyOr preferred fallback, answer⟩ =>
    some (.applyOr preferred fallback, answer.map .choice)
  | _ => none

/-- The events of an errand are those that are sent with the question. -/
theorem Exchange.events_of_dealing? {exchange : Exchange}
    {dealing : Errand × Except Refusal Finding} (h : exchange.dealing? = some dealing) :
    dealing.1.events = exchange.effect.events := by
  obtain ⟨effect, answer⟩ := exchange
  cases effect <;> cases h <;> rfl

/-- Something that a task has had done at the table. -/
structure Dealing where
  /-- The task. -/
  task : Nat
  /-- What it wanted. -/
  errand : Errand
  /-- What came of it. -/
  result : Except Refusal Finding

/-- What a task wanted, and what came of it. -/
def Dealing.pair (dealing : Dealing) : Errand × Except Refusal Finding :=
  (dealing.errand, dealing.result)

/-- What an occurrence has to do with the table. -/
def Occurrence.dealing? : Occurrence ρ → Option Dealing
  | answered task exchange => exchange.dealing?.map fun dealing => ⟨task, dealing.1, dealing.2⟩
  | _ => none

namespace Chronicle

/-- What tasks have had done at the table. -/
def dealings (chronicle : Chronicle ρ) : List Dealing := chronicle.filterMap Occurrence.dealing?

theorem dealings_concat (chronicle : Chronicle ρ) (occurrence : Occurrence ρ) :
    dealings (chronicle ++ [occurrence]) = dealings chronicle ++ occurrence.dealing?.toList := by
  rw [dealings, List.filterMap_append]
  cases h : occurrence.dealing? <;> simp [dealings, h]

/-- The dealings of one task are those of its history. -/
theorem filter_dealings (chronicle : Chronicle ρ) (task : Nat) :
    (chronicle.dealings.filter fun dealing => dealing.task = task).map Dealing.pair =
      (chronicle.history task).filterMap Exchange.dealing? := by
  induction chronicle with
  | nil => rfl
  | cons occurrence chronicle ih =>
    rw [dealings, history] at ih ⊢
    cases occurrence with
    | answered other exchange =>
      cases hdealing : exchange.dealing? with
      | none =>
        by_cases heq : other = task <;>
          simp [Occurrence.dealing?, Occurrence.exchangeOf?, hdealing, heq, ih]
      | some dealing =>
        by_cases heq : other = task <;>
          simp [Occurrence.dealing?, Occurrence.exchangeOf?, Dealing.pair, hdealing, heq, ih]
    | _ => exact ih

end Chronicle

/-- What is delivered is handed over at most, and nothing else is. -/
theorem Slot.handed_deliver_subset (slot : Slot) (call : CallId) (value : Reply) :
    ∀ entry ∈ (slot.deliver call value).1.handed, entry ∈ slot.handed ∨ entry = (call, value) := by
  intro entry hentry
  rw [Slot.deliver] at hentry
  split at hentry
  · exact .inl hentry
  · split at hentry
    · split at hentry
      · simpa using hentry
      · exact .inl hentry
    · exact .inl hentry

namespace Session

variable {before middle after session : Session ρ} {chronicle : Chronicle ρ}
  {occurrence? : Option (Occurrence ρ)} {table : Table}

/-! ### Results -/

/-- What has been handed to calls, and what callers have gone on with, was taken in before. -/
structure Heard (chronicle : Chronicle ρ) (session : Session ρ) : Prop where
  handed : ∀ place slot, session.slot? place = some slot → ∀ entry ∈ slot.handed,
    ∃ origin walk, .received place (.result origin entry.1 entry.2) walk ∈ chronicle
  awaited : ∀ task place call value, .answered task ⟨.await place call, .ok value⟩ ∈ chronicle →
    ∃ origin walk, .received place (.result origin call value) walk ∈ chronicle

theorem Heard.congr (h : before.Heard chronicle) (hhanded : ∀ place,
    (after.slot? place).map Slot.handed = (before.slot? place).map Slot.handed) :
    after.Heard chronicle := by
  refine ⟨fun place slot hslot entry hentry => ?_, h.awaited⟩
  have hsome := hhanded place
  rw [hslot, Option.map_some] at hsome
  obtain ⟨earlier, hearlier, heq⟩ := Option.map_eq_some_iff.mp hsome.symm
  exact h.handed place earlier hearlier entry (heq ▸ hentry)

/-- One more thing happens, and if a caller goes on with a result, it was taken in. -/
theorem Heard.concat (h : session.Heard chronicle) {occurrence : Occurrence ρ}
    (hawaited : ∀ task place call value,
      occurrence = .answered task ⟨.await place call, .ok value⟩ →
        ∃ origin walk, .received place (.result origin call value) walk ∈ chronicle) :
    session.Heard (chronicle ++ [occurrence]) := by
  refine ⟨fun place slot hslot entry hentry => ?_, fun task place call value hmem => ?_⟩
  · obtain ⟨origin, walk, hreceived⟩ := h.handed place slot hslot entry hentry
    exact ⟨origin, walk, List.mem_append_left _ hreceived⟩
  · have hold : ∃ origin walk,
        Occurrence.received place (.result origin call value) walk ∈ chronicle := by
      obtain hmem | hmem := List.mem_append.mp hmem
      · exact h.awaited task place call value hmem
      · exact hawaited task place call value (List.mem_singleton.mp hmem).symm
    obtain ⟨origin, walk, hreceived⟩ := hold
    exact ⟨origin, walk, List.mem_append_left _ hreceived⟩

/-- To answer a question is not to hand over a result. -/
theorem handed_perform? {effect : Effect} {answer : effect.Answer}
    (h : session.perform? effect = some (after, answer)) (place : LinkEnd) :
    (after.slot? place).map Slot.handed = (session.slot? place).map Slot.handed := by
  have hslot (other : LinkEnd) {change : Slot → Slot}
      (hchange : ∀ slot, session.slot? other = some slot → (change slot).handed = slot.handed) :
      ((session.modifySlot other change).slot? place).map Slot.handed =
        (session.slot? place).map Slot.handed := by
    rw [slot?_modifySlot]
    split
    case isTrue heq =>
      subst heq
      cases hsome : session.slot? place with
      | none => rfl
      | some slot => exact congrArg some (hchange slot hsome)
    case isFalse => rfl
  cases effect with
  | observe | apply | applyOr | confirm | isLinked =>
    cases h
    cases place <;> rfl
  | number party =>
    cases h
    rw [slot?, desk?_modifyStation]
    rfl
  | cancel other call =>
    cases h
    exact hslot other fun slot _ => (Slot.Loses.cancel slot call).handed
  | crash => cases h
  | send other command =>
    obtain rfl | rfl := eq_of_push? h
    · rfl
    · exact congrArg _ (slot?_modifyDesk session other.opposite place fun _ => rfl)
  | await other call =>
    rw [perform?] at h
    split at h
    · cases h
      rfl
    · obtain ⟨answer, -, heq⟩ := Option.map_eq_some_iff.mp h
      cases heq
      rfl
  | register other call =>
    obtain ⟨failure, rfl, rfl⟩ | ⟨rfl, slot, hsome, -, rfl⟩ := register_cases h
    · rfl
    · refine hslot other fun slot' hslot' => ?_
      cases hsome.symm.trans hslot'
      rfl

/-- What a caller goes on with was handed to its call. -/
theorem handed_of_await {place : LinkEnd} {call : CallId} {value : Reply}
    (h : session.perform? (.await place call) = some (after, .ok value)) :
    ∃ slot, session.slot? place = some slot ∧ (call, value) ∈ slot.handed := by
  rw [perform?] at h
  split at h
  case h_1 => cases h
  case h_2 desk hdesk =>
    obtain ⟨answer, hanswer, heq⟩ := Option.map_eq_some_iff.mp h
    cases heq
    refine ⟨desk.slot, by rw [slot?, hdesk, Option.map_some], ?_⟩
    rw [Slot.answer?] at hanswer
    split at hanswer
    case h_1 entry hfind =>
      cases hanswer
      have hcall : entry.1 = call := by simpa using List.find?_some hfind
      exact hcall ▸ List.mem_of_find?_eq_some hfind
    case h_2 => split at hanswer <;> cases hanswer

theorem Heard.occurs (h : before.Heard chronicle) (hoccurs : Occurs before occurrence? after) :
    after.Heard (chronicle ++ occurrence?.toList) := by
  cases hoccurs with
  | @answered task effect goOn middle answer mem asks answers =>
    have hwithout (place : LinkEnd) :
        (before.withoutTask task.id).slot? place = before.slot? place := by
      rw [slot?, desk?_withoutTask]
      rfl
    have hconcat : before.Heard (chronicle ++ [.answered task.id ⟨effect, answer⟩]) := by
      refine h.concat fun other place call value heq => ?_
      cases heq
      obtain ⟨slot, hslot, hentry⟩ := handed_of_await answers
      exact h.handed place slot ((hwithout place).symm.trans hslot) (call, value) hentry
    refine hconcat.congr fun place => ?_
    rw [slot?, desk?_queueTask]
    refine (handed_perform? answers place).trans ?_
    rw [hwithout]
  | @delegated place station desk origin call action =>
    have hconcat : before.Heard
        (chronicle ++ [.received place (.delegate origin call action) before.spawned]) :=
      h.concat fun _ _ _ _ heq => by cases heq
    refine hconcat.congr fun other => ?_
    rw [slot?, desk?_spawn]
    exact congrArg _ (slot?_taken before place other)
  | @resulted place desk origin call value hdesk arrived =>
    refine ⟨fun other slot hslot entry hentry => ?_, fun task other call' value' hmem => ?_⟩
    · rw [slot?_modifySlot, slot?_taken] at hslot
      have hold (slot : Slot) (hslot : before.slot? other = some slot)
          (hentry : entry ∈ slot.handed) :
          ∃ origin' walk, Occurrence.received other (.result origin' entry.1 entry.2) walk ∈
            chronicle ++ [.received place (.result origin call value) before.spawned] := by
        obtain ⟨origin', walk, hreceived⟩ := h.handed other slot hslot entry hentry
        exact ⟨origin', walk, List.mem_append_left _ hreceived⟩
      split at hslot
      case isTrue heq =>
        subst heq
        obtain ⟨earlier, hearlier, rfl⟩ := Option.map_eq_some_iff.mp hslot
        obtain hentry | rfl := Slot.handed_deliver_subset earlier call value entry hentry
        · exact hold earlier hearlier hentry
        · exact ⟨origin, before.spawned, List.mem_append_right _ (List.mem_singleton.mpr rfl)⟩
      case isFalse => exact hold slot hslot hentry
    · obtain hmem | hmem := List.mem_append.mp hmem
      · obtain ⟨origin', walk, hreceived⟩ := h.awaited task other call' value' hmem
        exact ⟨origin', walk, List.mem_append_left _ hreceived⟩
      · cases List.mem_singleton.mp hmem
  | started holder routine =>
    have hconcat : before.Heard
        (chronicle ++ [.started before.spawned (.job before.started holder routine)]) :=
      h.concat fun _ _ _ _ heq => by cases heq
    exact hconcat.congr fun place => by cases place <;> rfl
  | passed passes =>
    rw [Option.toList_none, List.append_nil]
    exact h.congr passes.handed

/-! ### Tables -/

/-- The table is as the errands have left it, each with the result that is recorded. -/
def Dealt (table : Table) (chronicle : Chronicle ρ) (session : Session ρ) : Prop :=
  table.serveAll (chronicle.dealings.map Dealing.errand) =
    (session.table, chronicle.dealings.map Dealing.result)

/-- A question has to do with the table, or leaves it as it is. -/
theorem serve_perform? {effect : Effect} {answer : effect.Answer}
    (h : session.perform? effect = some (after, answer)) :
    match Exchange.dealing? ⟨effect, answer⟩ with
    | some dealing => session.table.serve dealing.1 = (after.table, dealing.2)
    | none => after.table = session.table := by
  cases effect with
  | apply | applyOr | observe | confirm | isLinked =>
    cases h
    rfl
  | number party =>
    cases h
    exact table_modifyStation ..
  | cancel place call =>
    cases h
    exact table_modifyDesk ..
  | crash => cases h
  | send place command =>
    obtain rfl | rfl := eq_of_push? h
    · rfl
    · exact table_modifyDesk ..
  | await place call =>
    rw [perform?] at h
    split at h
    · cases h
      rfl
    · obtain ⟨answer, -, heq⟩ := Option.map_eq_some_iff.mp h
      cases heq
      rfl
  | register place call =>
    obtain ⟨failure, rfl, rfl⟩ | ⟨rfl, slot, -, -, rfl⟩ := register_cases h
    · rfl
    · exact table_modifyDesk ..

theorem Dealt.isOpen (h : session.Dealt table chronicle) (hopen : table.IsOpen) :
    session.table.IsOpen := by
  have hafter := Table.isOpen_serveAll hopen (chronicle.dealings.map Dealing.errand)
  rwa [h] at hafter

theorem Dealt.congr (h : before.Dealt table chronicle) {chronicle' : Chronicle ρ}
    (hdealings : chronicle'.dealings = chronicle.dealings) (htable : after.table = before.table) :
    after.Dealt table chronicle' := by
  rw [Dealt, hdealings, htable]
  exact h

theorem Dealt.occurs (h : before.Dealt table chronicle)
    (hoccurs : Occurs before occurrence? after) :
    after.Dealt table (chronicle ++ occurrence?.toList) := by
  have hnothing {occurrence : Occurrence ρ} (hnone : occurrence.dealing? = none) :
      (chronicle ++ [occurrence] : Chronicle ρ).dealings = chronicle.dealings := by
    rw [Chronicle.dealings_concat, hnone, Option.toList_none, List.append_nil]
  cases hoccurs with
  | @answered task effect goOn middle answer mem asks answers =>
    have hserve := serve_perform? answers
    cases hdealing : Exchange.dealing? ⟨effect, answer⟩ with
    | none =>
      rw [hdealing] at hserve
      exact h.congr (hnothing (by rw [Occurrence.dealing?, hdealing, Option.map_none])) hserve
    | some dealing =>
      rw [hdealing] at hserve
      have hconcat : (chronicle ++ [.answered task.id ⟨effect, answer⟩] : Chronicle ρ).dealings =
          chronicle.dealings ++ [⟨task.id, dealing.1, dealing.2⟩] := by
        rw [Chronicle.dealings_concat, Occurrence.dealing?, hdealing]
        rfl
      change table.serveAll (List.map _ (Chronicle.dealings (chronicle ++ [_]))) =
        (middle.table, List.map _ (Chronicle.dealings (chronicle ++ [_])))
      have hserved : before.table.serve dealing.1 = (middle.table, dealing.2) := hserve
      rw [hconcat, List.map_append, List.map_append, List.map_singleton, List.map_singleton,
        Table.serveAll_concat, h, hserved]
  | @delegated place station desk origin call action =>
    exact h.congr (hnothing rfl) (table_modifyDesk ..)
  | resulted =>
    refine h.congr (hnothing rfl) ?_
    rw [modifySlot, table_modifyDesk, taken, table_modifyDesk]
  | started holder routine => exact h.congr (hnothing rfl) rfl
  | passed passes =>
    rw [Option.toList_none, List.append_nil]
    exact h.congr rfl passes.table

/-! ### Sessions -/

/-- A session that was opened with the table and in which parties carry out actions in the given
ways is as its record says. -/
structure Chronicled (table : Table) (execute? : Party → Option (Executor Routine))
    (chronicle : Chronicle ρ) (session : Session ρ) : Prop where
  recorded : session.Recorded chronicle
  traced : session.Traced execute? chronicle
  heard : session.Heard chronicle
  dealt : session.Dealt table chronicle

variable {execute? : Party → Option (Executor Routine)}

theorem Chronicled.followed (h : session.Chronicled table execute? chronicle) :
    session.Followed execute? chronicle := ⟨h.recorded, h.traced⟩

/-- **After a move a session is again as its record says.** -/
theorem Chronicled.moved (h : before.Chronicled table execute? chronicle) {move : Move ρ}
    (hmove : before.move? move = some after) (hnot : ∀ event, move ≠ .apply event) :
    after.Chronicled table execute? (chronicle ++ (before.occurrence? move).toList) := by
  have hoccurs := occurs_of_move? h.recorded.toNumbered hmove hnot
  obtain ⟨hrecorded, htraced⟩ := h.followed.moved hmove
  exact ⟨hrecorded, htraced, h.heard.occurs hoccurs, h.dealt.occurs hoccurs⟩

theorem chronicled_opened (table : Table) (server : Option (Executor Routine))
    (participants : List (PlayerId × Option (Executor Routine))) :
    (opened table server participants : Session ρ).Chronicled table
      (opened table server participants : Session ρ).execute? [] where
  recorded := (followed_opened table server participants).recorded
  traced := (followed_opened table server participants).traced
  heard := by
    refine ⟨fun place slot hslot entry hentry => ?_, fun _ _ _ _ h => absurd h List.not_mem_nil⟩
    obtain ⟨desk, hdesk, rfl⟩ := Option.map_eq_some_iff.mp hslot
    rw [desk?_opened hdesk] at hentry
    cases hentry
  dealt := rfl

theorem Chronicled.run? {moves : List (Move ρ)} (h : before.Chronicled table execute? chronicle)
    (hmoves : ∀ move ∈ moves, ∀ event, move ≠ .apply event)
    (hrun : before.run? moves = some after) :
    after.Chronicled table execute? (chronicle ++ before.chronicle moves) :=
  recorded_of_run? (Chronicled table execute?)
    (fun move hmem _ _ _ h hmove => h.moved hmove (hmoves move hmem)) h hrun

/-- **Every session is as its record says**, as long as nobody acts at the table by hand. -/
theorem chronicled_of_run? {server : Option (Executor Routine)}
    {participants : List (PlayerId × Option (Executor Routine))} {moves : List (Move ρ)}
    (hmoves : ∀ move ∈ moves, ∀ event, move ≠ .apply event)
    (hrun : (opened table server participants).run? moves = some after) :
    after.Chronicled table (opened table server participants : Session ρ).execute?
      ((opened table server participants).chronicle moves) :=
  (chronicled_opened table server participants).run? hmoves hrun

/-- A job that is recorded has been started by somebody. -/
theorem start_of_mem_chronicle {moves : List (Move ρ)} {task : Nat} {job : Activity ρ}
    (h : .started task job ∈ session.chronicle moves) :
    ∃ holder routine number, .start holder routine ∈ moves ∧ job = .job number holder routine := by
  induction moves generalizing session with
  | nil => cases h
  | cons move moves ih =>
    obtain h | h := List.mem_append.mp h
    · cases move with
      | start holder routine =>
        cases List.mem_singleton.mp h
        exact ⟨holder, routine, session.started, List.mem_cons_self, rfl⟩
      | step label =>
        have hsome := Option.mem_toList.mp h
        cases label with
        | advance id =>
          obtain ⟨_, _, hsome⟩ := Option.bind_eq_some_iff.mp hsome
          obtain ⟨_, _, hsome⟩ := Option.bind_eq_some_iff.mp hsome
          obtain ⟨_, _, hsome⟩ := Option.bind_eq_some_iff.mp hsome
          cases hsome
        | receive place =>
          obtain ⟨_, _, hsome⟩ := Option.bind_eq_some_iff.mp hsome
          obtain ⟨_, _, hsome⟩ := Option.bind_eq_some_iff.mp hsome
          cases hsome
        | _ => cases hsome
      | _ => cases h
    · split at h
      case h_1 next hmove =>
        obtain ⟨holder, routine, number, hmem, hjob⟩ := ih h
        exact ⟨holder, routine, number, List.mem_cons_of_mem _ hmem, hjob⟩
      case h_2 => cases h

end Session

end RoundTable
