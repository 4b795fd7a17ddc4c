/-!
# Guards

A guard decides whether an event may pass in the present payload. It is built from named tests by
conjunction, and it is evaluated from left to right up to the first test that refuses. A verdict
reports which tests were evaluated, in order, next to the decision: two guards that accept the same
events may still differ in what they look at.

## Main definitions

* `Guard`: guards over payloads `σ` and events `ε`
* `Guard.verdict`, `Guard.check`: evaluation, with and without the report
* `Guard.tests`: the tests of a guard, from left to right
* `Guard.all?`, `Guard.all`: the conjunction of guards
-/

namespace RoundTable

/-- The outcome of evaluating a guard. -/
structure Verdict where
  /-- Whether the guard accepts. -/
  accepted : Bool
  /-- The names of the tests that were evaluated, in order. -/
  checked : List String
  deriving DecidableEq

/-- A condition on a payload and an event. -/
inductive Guard (σ ε : Type) where
  /-- Accepts everything and evaluates no test. -/
  | always
  /-- A named test. -/
  | test (name : String) (accepts : σ → ε → Bool)
  /-- Accepts what both parts accept; the second part is evaluated only if the first accepts. -/
  | both (first second : Guard σ ε)

namespace Guard

variable {σ ε : Type}

instance : Inhabited (Guard σ ε) := ⟨always⟩

instance : Add (Guard σ ε) := ⟨both⟩

/-- Evaluates a guard. -/
def verdict : Guard σ ε → σ → ε → Verdict
  | always, _, _ => ⟨true, []⟩
  | test name accepts, payload, event => ⟨accepts payload event, [name]⟩
  | both first second, payload, event =>
    let v := first.verdict payload event
    if v.accepted then
      let w := second.verdict payload event
      ⟨w.accepted, v.checked ++ w.checked⟩
    else v

/-- Whether a guard accepts. -/
def check (guard : Guard σ ε) (payload : σ) (event : ε) : Bool :=
  (guard.verdict payload event).accepted

/-- The tests of a guard with their names, from left to right. -/
def tests : Guard σ ε → List (String × (σ → ε → Bool))
  | always => []
  | test name accepts => [(name, accepts)]
  | both first second => first.tests ++ second.tests

/-- The conjunction of guards, evaluated in order; none of no guards. -/
def all? : List (Guard σ ε) → Option (Guard σ ε)
  | [] => none
  | guard :: guards => some (guards.foldl (· + ·) guard)

/-- The conjunction of guards, evaluated in order. -/
def all (guards : List (Guard σ ε)) : Guard σ ε := (all? guards).getD always

theorem all?_concat (guards : List (Guard σ ε)) (last : Guard σ ε) :
    all? (guards ++ [last]) = some ((all? guards).elim last (· + last)) := by
  cases guards with
  | nil => rfl
  | cons guard guards => simp [all?]

/-! ### What a conjunction accepts -/

variable {payload : σ} {event : ε}

theorem check_add (first second : Guard σ ε) :
    (first + second).check payload event =
      (first.check payload event && second.check payload event) := by
  show (both first second).check payload event = _
  simp only [check, verdict]
  cases hfirst : (first.verdict payload event).accepted with
  | true => rfl
  | false => simp [hfirst]

theorem check_foldl_add (first : Guard σ ε) (guards : List (Guard σ ε)) :
    (guards.foldl (· + ·) first).check payload event =
      (first.check payload event && guards.all fun guard => guard.check payload event) := by
  induction guards generalizing first with
  | nil => rw [List.foldl_nil, List.all_nil, Bool.and_true]
  | cons guard guards ih => rw [List.foldl_cons, ih, check_add, List.all_cons, Bool.and_assoc]

theorem check_all (guards : List (Guard σ ε)) :
    (all guards).check payload event = guards.all fun guard => guard.check payload event := by
  cases guards with
  | nil => rfl
  | cons guard guards =>
    show (guards.foldl (· + ·) guard).check payload event = _
    rw [check_foldl_add, List.all_cons]

end Guard

end RoundTable
