import RoundTable.Proofs.Session.Turns

/-!
# Routines that nobody disturbs

A routine that has its turn in a scene, and gives the turn away only in calls, comes to a result and
leaves a table that depend on the table that it found. A call is such a routine again, if what the
other side does for it is. For a call to return, nobody who waits may be asked: participants ask the
server, and the server asks participants, but nobody asks back for what has been asked already.

## Main definitions

* `LinkEnd.rank`: whose calls may lead to whose
* `Company.Does`: what a routine comes to, and which table it leaves

## Main results

* `Company.Does.bind`: one routine after another
* `Company.Does.call`: a call comes to what the other side does
-/

namespace RoundTable

open Function (update)

variable {α β γ : Type} {company : Company} {table middle after : Table} {level : Nat}

/-! ### Results -/

/-- Whose calls may lead to whose. -/
def LinkEnd.rank : LinkEnd → Nat
  | ofServer _ => 1
  | ofParticipant _ => 2

/-- A routine may have its turn that calls from ends below the given rank only. A failure of its
calls may be fatal only if nobody else waits for anything. -/
structure Scene.Allows {ρ : Type} (level : Nat) (scene : Scene ρ) (capacity : Capacity ρ β) :
    Prop where
  doomed : scene.doomed = none
  free : ∀ place, place.rank < level → scene.post place = .free
  bottom : 2 < level → scene.waiting = [] ∧ ∀ party, capacity.isWalkOf party = false

/-- What a routine comes to that calls from ends below the given rank only: whatever goes on after
it may as well start with its result, at the table that it leaves. -/
structure Company.Does (company : Company) (level : Nat) (routine : Routine α) (table : Table)
    (doomed : Option Party) (a : α) (after : Table) : Prop where
  settles : ∀ {ρ β : Type} (P : Session ρ → Prop) (scene : Scene ρ) (capacity : Capacity ρ β)
    (id : Nat)
    (next : α → Routine β), scene.table = table → scene.Allows level capacity →
    ({ scene with table := after, doomed }.turn capacity id none (next a)).Settles company P →
    (scene.turn capacity id none (Interaction.bind routine next)).Settles company P

namespace Company.Does

variable {doomed : Option Party} {a : α} {b : β} {routine : Routine α}

theorem done (company : Company) (level : Nat) (table : Table) (a : α) :
    company.Does level (Interaction.done a) table none a table := by
  constructor
  intro ρ β P scene capacity id next htable hallows hnext
  rwa [← htable, ← hallows.doomed] at hnext

/-- One routine after another. -/
theorem bind {next : α → Routine β} (h : company.Does level routine table none a middle)
    (hnext : company.Does level (next a) middle doomed b after) :
    company.Does level (Interaction.bind routine next) table doomed b after := by
  constructor
  intro ρ γ P scene capacity id last htable hallows hlast
  rw [Interaction.bind_assoc]
  refine h.settles P scene capacity id _ htable hallows ?_
  exact hnext.settles P { scene with table := middle, doomed := none } capacity id last rfl
    ⟨rfl, hallows.free, hallows.bottom⟩ hlast

/-- Even where somebody is doomed after the first routine, the second one may have nothing to do. -/
theorem bind_done {next : α → Routine β} (h : company.Does level routine table doomed a after)
    (hnext : next a = Interaction.done b) :
    company.Does level (Interaction.bind routine next) table doomed b after := by
  constructor
  intro ρ γ P scene capacity id last htable hallows hlast
  rw [Interaction.bind_assoc]
  refine h.settles P scene capacity id _ htable hallows ?_
  rw [hnext]
  exact hlast

/-- A question that does not take another party. -/
theorem ask {effect : Effect} {answer : effect.Answer} {next : effect.Answer → Routine α}
    (hlocal : company.local? table effect = some (middle, answer))
    (h : company.Does level (next answer) middle doomed a after) :
    company.Does level (Interaction.ask effect next) table doomed a after := by
  constructor
  intro ρ γ P scene capacity id last htable hallows hlast
  subst htable
  refine Scene.settles_local (fun answer => Interaction.bind (next answer) last) hlocal ?_
  exact h.settles P { scene with table := middle } capacity id last rfl
    ⟨hallows.doomed, hallows.free, hallows.bottom⟩ hlast

end Company.Does

/-! ### Calls -/

theorem LinkEnd.rank_le (place : LinkEnd) : place.rank ≤ 2 := by
  cases place with
  | ofServer id => exact Nat.le_succ 1
  | ofParticipant id => exact Nat.le_refl 2

theorem Session.attributed_opposite (place : LinkEnd) :
    attributed place.opposite place.owner = place.owner := by
  cases place <;> rfl

/-- What is sent back for an action. -/
def delivered : Except Failure Reply → Reply
  | .ok value => value
  | .error failure => .failed failure.message

/-- How the walk of an action ends when its result has been sent back. -/
def walkEnd : Except Failure Reply → Except Failure Unit
  | .ok _ => .ok ()
  | .error failure => if failure.isFatal then .error failure else .ok ()

/-- A walk sends back what the action has come to. -/
theorem Routine.run_delegated (execute : Executor Routine) (place : LinkEnd) (origin : Party)
    (call : CallId) (action : Request) :
    ∃ next : Except Failure Reply → Bool → Routine (Except Failure Unit),
      (Routine.delegated execute place origin call action).run =
        Interaction.bind (execute origin action).run (fun result =>
          Interaction.ask (.send place (.result place.owner call (delivered result)))
            (next result)) ∧
      ∀ result, next result true = Interaction.done (walkEnd result) := by
  refine ⟨fun result sent => match result, sent with
    | .ok _, true => Interaction.done (.ok ())
    | .ok _, false => Interaction.done (.error .disconnected)
    | .error failure, sent => Interaction.done (if failure.isFatal then .error failure
        else if sent then .ok () else .error .disconnected), ?_, fun result => ?_⟩
  · refine congrArg (Interaction.bind _) (funext fun result => ?_)
    cases result with
    | ok value =>
      refine congrArg (Interaction.ask _) (funext fun sent => ?_)
      cases sent <;> rfl
    | error failure =>
      refine congrArg (Interaction.ask _) (funext fun sent => ?_)
      cases sent <;> rfl
  · cases result with
    | ok value => rfl
    | error failure => rfl

/-- A failure of the other side may be fatal where nobody else waits, and dooms the other side. -/
def IsDoomed (level : Nat) (place : LinkEnd) (result : Except Failure Reply)
    (doomed : Option Party) : Prop :=
  (doomed = none ∧ ∀ failure, result = .error failure → failure.isFatal = false) ∨
    doomed = some place.partner ∧ 2 < level

namespace IsDoomed

variable {place : LinkEnd} {result : Except Failure Reply} {doomed : Option Party}

/-- A walk that ends with a failure dooms its party. -/
theorem of_walkEnd (h : IsDoomed level place result doomed) {failure : Failure}
    (hend : walkEnd result = .error failure) : doomed = some place.partner := by
  obtain ⟨-, hnone⟩ | ⟨hsome, -⟩ := h
  · cases result with
    | ok value => cases hend
    | error failure' => simp [walkEnd, hnone failure' rfl] at hend
  · exact hsome

/-- Whoever calls is not doomed. -/
theorem ne_owner (h : IsDoomed level place result doomed) :
    ∀ party ∈ doomed, place.opposite.partner ≠ party := by
  rintro party hparty rfl
  obtain ⟨rfl, -⟩ | ⟨rfl, -⟩ := h
  · exact absurd hparty (Option.not_mem_none _)
  · cases place <;> cases hparty

/-- Nobody who waits is a walk of a doomed party. -/
theorem isWalkOf {ρ : Type} {scene : Scene ρ} {capacity : Capacity ρ β}
    (h : IsDoomed level place result doomed) (hallows : scene.Allows level capacity) {task : Task ρ}
    (htask : ∀ party, task.activity.isWalkOf party = capacity.isWalkOf party) :
    ∀ party ∈ doomed, ∀ other ∈ task :: scene.waiting, other.activity.isWalkOf party = false := by
  intro party hparty other hother
  obtain ⟨rfl, -⟩ | ⟨-, hlevel⟩ := h
  · exact absurd hparty (Option.not_mem_none party)
  · obtain ⟨hwaiting, hwalk⟩ := hallows.bottom hlevel
    rw [hwaiting] at hother
    rw [List.mem_singleton.mp hother, htask, hwalk]

end IsDoomed

theorem Scene.settles_of_sound {ρ : Type} {P : Session ρ → Prop} {scene : Scene ρ}
    (h : scene.IsSound company → scene.Settles company P) : scene.Settles company P :=
  fun session hfits => h hfits.sound session hfits

/-- **A call comes to what the other side does.** -/
theorem Company.Does.call {place : LinkEnd} {action : Request} {result : Except Failure Reply}
    {doomed : Option Party} (hplace : (company.chooser? place.guest).isSome = true)
    (hrank : place.rank < level)
    (h : company.Does place.rank (company.execute place.partner place.owner action).run table none
      result after) (hdoomed : IsDoomed level place result doomed) :
    company.Does level (Routine.call place action).run table doomed (.ok (delivered result))
      after := by
  constructor
  intro ρ γ P scene capacity id next htable hallows hnext
  have hfree := hallows.free place hrank
  have hplace' : (company.chooser? place.opposite.guest).isSome = true := by
    rw [LinkEnd.guest_opposite]
    exact hplace
  refine Scene.settles_of_sound fun hsound => ?_
  rw [Routine.run_call]
  refine Scene.settles_number hplace hfree fun call => ?_
  refine Scene.settles_register hplace (Function.update_self _ _ _) ?_
  rw [Function.update_idem]
  refine Scene.settles_delegate hplace hallows.doomed (Function.update_self _ _ _) rfl ?_
  -- the other side takes the action in
  refine Scene.settles_delegated rfl rfl rfl hplace' fun id' => ?_
  obtain ⟨tail, hrun, htail⟩ := Routine.run_delegated (company.execute place.opposite.owner)
    place.opposite (Session.attributed place.opposite place.owner) call action
  rw [hrun, Session.attributed_opposite, LinkEnd.owner_opposite]
  refine h.settles P _ (.walk place.partner) id' _ htable
    ⟨rfl, fun other hother => ?_, fun hlt => ?_⟩ ?_
  · have hne : other ≠ place := by
      rintro rfl
      exact Nat.lt_irrefl _ hother
    exact (Function.update_of_ne hne _ _).trans (hallows.free other (Nat.lt_trans hother hrank))
  · exact absurd hlt (Nat.not_lt.mpr place.rank_le)
  refine Scene.settles_result hplace' rfl (htail result) (fun _ hend _ => hdoomed.of_walkEnd hend)
    (hdoomed.isWalkOf hallows fun party => ?_) hdoomed.ne_owner ?_
  · exact Capacity.isWalkOf_act capacity _ party
  -- the result arrives
  refine Scene.settles_resulted rfl (by rw [Scene.posted, LinkEnd.opposite_opposite]) hplace rfl
    (Function.update_self _ _ _) (fun task hmem => ?_) ?_
  · have hreposts : scene.Reposts company
        { scene with post := update scene.post place (.answered call (delivered result)) } :=
      .inr ⟨place, _, hplace, (fun call hcall => by cases hfree.symm.trans hcall), rfl⟩
    have hawaits := hreposts.awaits (hsound.awaits task hmem)
    rwa [← Function.update_idem] at hawaits
  refine Scene.settles_await hplace (Function.update_self _ _ _) ?_
  -- nothing is left of the call
  have hback : update (update (update scene.post place (.waiting call)) place
      (.answered call (delivered result))) place .free = scene.post := by
    rw [Function.update_idem, Function.update_idem, ← hfree, Function.update_eq_self]
  have hscene : ({ scene with
      table := after
      post := update (update (update scene.post place (.waiting call)) place
        (.answered call (delivered result))) place .free
      doomed }.turn capacity id none (next (.ok (delivered result)))).Settles company P := by
    rw [hback]
    exact hnext
  exact hscene

end RoundTable
