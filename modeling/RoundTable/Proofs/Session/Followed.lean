import RoundTable.Proofs.Session.Ways

/-!
# Tasks are followed whatever happens

What the record says about the tasks of a session it says even if somebody acts at the table by
hand: nothing of that concerns any task. A routine that is done has no more to ask.

## Main definitions

* `Session.Followed`: sessions whose tasks are where the record says

## Main results

* `Session.followed_of_run?`: every session is one of them
-/

namespace RoundTable

/-- Nothing can be asked after a routine is done. -/
theorem Routine.Goes.unique_of_done {α : Type} {routine later : Routine α}
    {history more : List Exchange} {result : α}
    (hdone : Goes routine history (Interaction.done result))
    (hgoes : Goes routine (history ++ more) later) :
    more = [] ∧ later = Interaction.done result := by
  generalize hend : Interaction.done result = last at hdone
  induction hdone with
  | here =>
    subst hend
    cases hgoes
    exact ⟨rfl, rfl⟩
  | ask _ ih =>
    cases hgoes with
    | ask hrest => exact ih hrest hend

theorem Routine.Goes.eq_of_done {α : Type} {routine later : Routine α} {history : List Exchange}
    {result : α} (hdone : Goes routine history (Interaction.done result))
    (hgoes : Goes routine history later) : later = Interaction.done result := by
  rw [← List.append_nil history] at hgoes
  exact (hdone.unique_of_done hgoes).2

namespace Session

variable {ρ : Type} {before after : Session ρ} {chronicle : Chronicle ρ}
  {execute? : Party → Option (Executor Routine)}

/-- A session in which parties carry out actions in the given ways, and whose tasks are where the
record says. -/
structure Followed (execute? : Party → Option (Executor Routine)) (chronicle : Chronicle ρ)
    (session : Session ρ) : Prop where
  recorded : session.Recorded chronicle
  traced : session.Traced execute? chronicle

/-- After a move they are again where the record says. -/
theorem Followed.moved (h : before.Followed execute? chronicle) {move : Move ρ}
    (hmove : before.move? move = some after) :
    after.Followed execute? (chronicle ++ (before.occurrence? move).toList) := by
  by_cases hnot : ∀ event, move ≠ .apply event
  · have hoccurs := occurs_of_move? h.recorded.toNumbered hmove hnot
    exact ⟨h.recorded.occurs hoccurs,
      h.traced.occurs h.recorded hoccurs fun _ => isWilling_of_move? hmove⟩
  · obtain ⟨event, rfl⟩ : ∃ event, move = .apply event := by simpa using hnot
    have hwilling (party : Party) (hafter : after.IsWilling party) : before.IsWilling party :=
      isWilling_of_move? hmove hafter
    cases hmove
    rw [show before.occurrence? (.apply event) = none from rfl, Option.toList_none,
      List.append_nil]
    refine ⟨h.recorded.congr (h.recorded.toNumbered.congr (.refl _) rfl) rfl
      (fun task hmem => ⟨task, hmem, rfl⟩) rfl h.recorded.answered, ?_⟩
    exact h.traced.drops (fun _ hmem => hmem) (fun party => by cases party <;> rfl)
      (keepsWalks_of_tasks rfl) hwilling

theorem followed_opened (table : Table) (server : Option (Executor Routine))
    (participants : List (PlayerId × Option (Executor Routine))) :
    (opened table server participants : Session ρ).Followed
      (opened table server participants : Session ρ).execute? [] where
  recorded := ⟨⟨.nil, fun _ h => absurd h List.not_mem_nil⟩, .nil,
    fun _ h => absurd h List.not_mem_nil, fun _ h => absurd h List.not_mem_nil,
    fun _ _ h => absurd h List.not_mem_nil⟩
  traced := ⟨fun _ => rfl, fun _ h => absurd h List.not_mem_nil,
    fun _ h => absurd h List.not_mem_nil, fun _ h => absurd h List.not_mem_nil⟩

theorem Followed.run? {moves : List (Move ρ)} (h : before.Followed execute? chronicle)
    (hrun : before.run? moves = some after) :
    after.Followed execute? (chronicle ++ before.chronicle moves) :=
  recorded_of_run? (Followed execute?) (fun _ _ _ _ _ h hmove => h.moved hmove) h hrun

/-- **The tasks of every session are where the record says.** -/
theorem followed_of_run? {table : Table} {server : Option (Executor Routine)}
    {participants : List (PlayerId × Option (Executor Routine))} {moves : List (Move ρ)}
    (hrun : (opened table server participants).run? moves = some after) :
    after.Followed (opened table server participants : Session ρ).execute?
      ((opened table server participants).chronicle moves) :=
  (followed_opened table server participants).run? hrun

/-- A task that is there has begun, and has come to where it is by its history. -/
theorem Followed.exists_begins (h : after.Followed execute? chronicle) {task : Task ρ}
    (hmem : task ∈ after.tasks) :
    ∃ occurrence ∈ chronicle, ∃ activity, occurrence.Begins execute? task.id activity ∧
      activity.Goes (chronicle.history task.id) task.activity := by
  obtain ⟨occurrence, hoccurrence, hbegun⟩ := List.mem_filterMap.mp (h.recorded.tasks task hmem)
  obtain ⟨activity, hbegins⟩ := h.traced.begins occurrence hoccurrence task.id hbegun
  obtain ⟨later, hgoes, hlater⟩ := h.traced.goes occurrence hoccurrence _ _ hbegins
  exact ⟨occurrence, hoccurrence, activity, hbegins, hlater task hmem rfl ▸ hgoes⟩

end Session

end RoundTable
