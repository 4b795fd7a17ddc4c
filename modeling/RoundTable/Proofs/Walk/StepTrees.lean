import RoundTable.Walk.Resolver

/-!
# Trees of steps

Interactions are put together like the sentences of a conversation: what is asked first is asked
first, however the parts are bracketed. The queue of a program is such a conversation, too. To feed
a value through it, as a walk does, splices the queues of all the continuations together, and here
it is shown that this leads to the same steps as the continuations one after another.

## Main results

* `Interaction.run_bind`: to run one interaction and then another one is to run their composition
* `run_bind_ok`, `run_bind_error`: so it is with computations that may fail
* `Queue.tree_settle`: settling a queue does not change the steps to come
* `Program.tree_andThen`: the steps of a program that goes on
* `Request.run_program`: what it takes to carry out a request
-/

namespace RoundTable

/-! ### Interactions -/

namespace Interaction

variable {Op : Type} {answer : Op → Type} {α β γ : Type}

theorem bind_done (i : Interaction Op answer α) : i.bind done = i := by
  induction i with
  | done result => rfl
  | ask op next ih => exact congrArg (ask op) (funext ih)

theorem bind_assoc (i : Interaction Op answer α) (f : α → Interaction Op answer β)
    (g : β → Interaction Op answer γ) : (i.bind f).bind g = i.bind fun a => (f a).bind g := by
  induction i with
  | done result => rfl
  | ask op next ih => exact congrArg (ask op) (funext ih)

instance : LawfulMonad (Interaction Op answer) :=
  .mk' (Interaction Op answer) bind_done (fun _ _ => rfl) bind_assoc

/-- What runs an interaction runs its parts one after another. -/
theorem run_bind {m : Type → Type} [Monad m] [LawfulMonad m] (resolve : (op : Op) → m (answer op))
    (i : Interaction Op answer α) (f : α → Interaction Op answer β) :
    (i.bind f).run resolve = i.run resolve >>= fun a => (f a).run resolve := by
  induction i with
  | done result => exact (pure_bind result fun a => (f a).run resolve).symm
  | ask op next ih =>
    calc (do let a ← resolve op; ((next a).bind f).run resolve)
        = (do let a ← resolve op; let b ← (next a).run resolve; (f b).run resolve) :=
          bind_congr ih
      _ = (ask op next).run resolve >>= fun a => (f a).run resolve :=
          (LawfulMonad.bind_assoc (resolve op) _ _).symm

end Interaction

/-! ### Computations that may fail -/

section

variable {σ α β : Type} {computation : ExceptT Failure (StateM σ) α} {before after : σ}

/-- What comes next goes on where a computation has left the state. -/
theorem run_bind_ok {next : α → ExceptT Failure (StateM σ) β} {a : α}
    (h : computation.run.run before = (.ok a, after)) :
    (computation >>= next).run.run before = (next a).run.run after := by
  simp only [ExceptT.run_bind, StateT.run_bind, h]
  rfl

/-- Nothing comes after a failure. -/
theorem run_bind_error {next : α → ExceptT Failure (StateM σ) β} {failure : Failure}
    (h : computation.run.run before = (.error failure, after)) :
    (computation >>= next).run.run before = (.error failure, after) := by
  simp only [ExceptT.run_bind, StateT.run_bind, h]
  rfl

theorem run_tryCatch_ok {handle : Failure → ExceptT Failure (StateM σ) α} {a : α}
    (h : computation.run.run before = (.ok a, after)) :
    (tryCatch computation handle).run.run before = (.ok a, after) := by
  simp only [ExceptT.run_tryCatch, StateT.run_bind, h]
  rfl

theorem run_tryCatch_error {handle : Failure → ExceptT Failure (StateM σ) α} {failure : Failure}
    (h : computation.run.run before = (.error failure, after)) :
    (tryCatch computation handle).run.run before = (handle failure).run.run after := by
  simp only [ExceptT.run_tryCatch, StateT.run_bind, h]
  rfl

end

/-! ### Queues and programs -/

/-- The steps of two queues, one after the other. -/
theorem Queue.tree_append {α β γ : Type} :
    (queue : Queue α β) → (after : Queue β γ) → (value : α) →
      (queue.append after).tree value = (queue.tree value).bind after.tree
  | .nil, _, _ => rfl
  | .cons first rest, after, value => by
    simp only [Queue.append, Queue.tree, Interaction.bind_assoc]
    exact congrArg _ (funext (rest.tree_append after))

/-- **Settling changes no steps.** -/
theorem Queue.tree_settle {α β : Type} :
    (queue : Queue α β) → (value : α) → (queue.settle value).tree = queue.tree value
  | .nil, _ => by
    simp only [Queue.settle, Queue.tree, Program.tree]
  | .cons first rest, value => by
    rw [Queue.settle, Queue.tree]
    cases hfirst : first value with
    | done result =>
      simp only [hfirst, Program.tree, Interaction.bind]
      exact rest.tree_settle result
    | step request inner =>
      simp only [hfirst, Program.tree, Interaction.bind]
      exact congrArg _ (funext (inner.tree_append rest))

namespace Program

variable {α β : Type}

/-- The steps of a program that goes on. -/
theorem tree_andThen (program : Program α) (next : α → Program β) :
    (program.andThen next).tree = program.tree.bind fun a => (next a).tree := by
  cases program with
  | done result => rfl
  | step request rest =>
    simp only [andThen, Program.tree, Interaction.bind]
    refine congrArg _ (funext fun answer => ?_)
    rw [Queue.tree_append]
    refine congrArg _ (funext fun a => ?_)
    simp only [Queue.tree, Interaction.bind_done]

end Program

/-- To carry out a request is to take its one step, and to make a reply of the answer. -/
theorem Request.run_program {m : Type → Type} [Monad m] (resolve : Resolver m) (request : Request) :
    request.program.run resolve =
      resolve request >>= fun answer => pure (request.expectation.wrap answer) :=
  rfl

end RoundTable
