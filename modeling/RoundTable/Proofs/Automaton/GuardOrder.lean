import RoundTable.Proofs.Automaton.Registrations

/-!
# Guards are evaluated from left to right

However a guard is nested, it is evaluated like the list of its tests: one after another, from left
to right, up to the first one that refuses. Neither the brackets of a conjunction nor guards without
tests among its parts can be told from a verdict, and the condition that a draft of an edge collects
call by call is evaluated in the order of the calls.

## Main definitions

* `Guard.inOrder`: the verdict on a list of tests

## Main results

* `Guard.verdict_eq_inOrder`: a guard is evaluated like the list of its tests
* `Guard.tests_all`: the tests of a conjunction of many guards
* `Guard.evaluates_left_to_right`: what is evaluated, and that nesting makes no difference
-/

namespace RoundTable

variable {φ κ ε σ : Type}

namespace Guard

/-! ### Lists of tests -/

/-- The verdict on tests that are evaluated one after another, up to the first one that refuses. -/
def inOrder (payload : σ) (event : ε) : List (String × (σ → ε → Bool)) → Verdict
  | [] => ⟨true, []⟩
  | t :: rest =>
    if t.2 payload event then
      let v := inOrder payload event rest
      ⟨v.accepted, t.1 :: v.checked⟩
    else ⟨false, [t.1]⟩

variable {payload : σ} {event : ε} {listed : List (String × (σ → ε → Bool))}

/-- The second part of a list is evaluated after the first part, and only if that accepts. -/
theorem inOrder_append (first second : List (String × (σ → ε → Bool))) :
    inOrder payload event (first ++ second) =
      if (inOrder payload event first).accepted then
        ⟨(inOrder payload event second).accepted,
          (inOrder payload event first).checked ++ (inOrder payload event second).checked⟩
      else inOrder payload event first := by
  induction first with
  | nil => rfl
  | cons t first ih =>
    rw [List.cons_append, inOrder, inOrder, ih]
    by_cases ht : t.2 payload event = true
    · rw [if_pos ht, if_pos ht]
      by_cases hfirst : (inOrder payload event first).accepted = true <;> simp [hfirst]
    · rw [if_neg ht, if_neg ht]
      rfl

/-- Tests that all accept are all evaluated. -/
theorem inOrder_of_forall (h : ∀ t ∈ listed, t.2 payload event = true) :
    inOrder payload event listed = ⟨true, listed.map Prod.fst⟩ := by
  induction listed with
  | nil => rfl
  | cons t rest ih =>
    obtain ⟨ht, hrest⟩ := List.forall_mem_cons.mp h
    rw [inOrder, if_pos ht, ih hrest]
    rfl

/-- The first test that refuses is the last one evaluated. -/
theorem inOrder_of_refuses {passed unseen : List (String × (σ → ε → Bool))}
    {refused : String × (σ → ε → Bool)} (hpassed : ∀ t ∈ passed, t.2 payload event = true)
    (hrefused : refused.2 payload event = false) :
    inOrder payload event (passed ++ refused :: unseen) =
      ⟨false, passed.map Prod.fst ++ [refused.1]⟩ := by
  have hlast : inOrder payload event (refused :: unseen) = ⟨false, [refused.1]⟩ := by
    rw [inOrder, hrefused]
    rfl
  rw [inOrder_append, inOrder_of_forall hpassed, hlast]
  rfl

/-- Either all tests accept, or there is a first one that refuses. -/
theorem all_or_refused (payload : σ) (event : ε) (listed : List (String × (σ → ε → Bool))) :
    (∀ t ∈ listed, t.2 payload event = true) ∨
      ∃ passed refused unseen, listed = passed ++ refused :: unseen ∧
        (∀ t ∈ passed, t.2 payload event = true) ∧ refused.2 payload event = false := by
  cases hfind : listed.find? fun t => !t.2 payload event with
  | none =>
    left
    intro t ht
    simpa using List.find?_eq_none.mp hfind t ht
  | some refused =>
    obtain ⟨hrefused, passed, unseen, hlisted, hpassed⟩ := List.find?_eq_some_iff_append.mp hfind
    exact .inr ⟨passed, refused, unseen, hlisted, fun t ht => by simpa using hpassed t ht,
      by simpa using hrefused⟩

/-! ### Guards -/

/-- **A guard is evaluated like the list of its tests.** -/
theorem verdict_eq_inOrder (guard : Guard σ ε) (payload : σ) (event : ε) :
    guard.verdict payload event = inOrder payload event guard.tests := by
  induction guard with
  | always => rfl
  | test name accepts =>
    simp only [verdict, tests, inOrder]
    by_cases haccepts : accepts payload event = true <;> simp [haccepts]
  | both first second hfirst hsecond =>
    rw [verdict, hfirst, hsecond, tests, inOrder_append]

theorem tests_add (first second : Guard σ ε) :
    (first + second).tests = first.tests ++ second.tests := rfl

theorem tests_foldl_add (first : Guard σ ε) (guards : List (Guard σ ε)) :
    (guards.foldl (· + ·) first).tests = first.tests ++ guards.flatMap tests := by
  induction guards generalizing first with
  | nil => rw [List.foldl_nil, List.flatMap_nil, List.append_nil]
  | cons guard guards ih =>
    rw [List.foldl_cons, ih, tests_add, List.flatMap_cons, List.append_assoc]

/-- The tests of a conjunction are those of its parts, in order. -/
theorem tests_all (guards : List (Guard σ ε)) : (all guards).tests = guards.flatMap tests := by
  cases guards with
  | nil => rfl
  | cons guard guards => exact tests_foldl_add guard guards

/-- **Guards are evaluated from left to right, up to the first refusal.** A guard accepts if all its
tests accept, and then these have been evaluated once each, in order. If not, those before the first
one that refuses have been evaluated, then that one, and none after it. So a conjunction may be
bracketed in any way, guards without tests may be left out of it, and what calls on the draft of an
edge add up to is evaluated in the order of the calls. -/
theorem evaluates_left_to_right (guard : Guard σ ε) (calls : List (EdgeCall φ κ ε σ)) (payload : σ)
    (event : ε) :
    (guard.check payload event = true ↔ ∀ t ∈ guard.tests, t.2 payload event = true) ∧
    ((∀ t ∈ guard.tests, t.2 payload event = true) ∧
        guard.verdict payload event = ⟨true, guard.tests.map Prod.fst⟩ ∨
      ∃ passed refused unseen, guard.tests = passed ++ refused :: unseen ∧
        (∀ t ∈ passed, t.2 payload event = true) ∧ refused.2 payload event = false ∧
        guard.verdict payload event = ⟨false, passed.map Prod.fst ++ [refused.1]⟩) ∧
    (∀ second third : Guard σ ε,
      (guard + second + third).verdict payload event =
        (guard + (second + third)).verdict payload event) ∧
    (default : Guard σ ε) = always ∧
    (always + guard).verdict payload event = guard.verdict payload event ∧
    (guard + always).verdict payload event = guard.verdict payload event ∧
    ((EdgeDraft.ofCalls calls).guard.getD default).verdict payload event =
      inOrder payload event ((calls.filterMap EdgeCall.guard?).flatMap tests) := by
  have hverdict := guard.verdict_eq_inOrder payload event
  have hcases := all_or_refused payload event guard.tests
  refine ⟨?_, ?_, fun second third => ?_, rfl, ?_, ?_, ?_⟩
  · rw [check, hverdict]
    obtain hall | ⟨passed, refused, unseen, htests, hpassed, hrefused⟩ := hcases
    · rw [inOrder_of_forall hall]
      exact iff_of_true rfl hall
    · rw [htests, inOrder_of_refuses hpassed hrefused]
      refine iff_of_false Bool.false_ne_true fun hall => ?_
      have haccepts := hall refused (List.mem_append_right _ List.mem_cons_self)
      cases hrefused.symm.trans haccepts
  · obtain hall | ⟨passed, refused, unseen, htests, hpassed, hrefused⟩ := hcases
    · exact .inl ⟨hall, hverdict.trans (inOrder_of_forall hall)⟩
    · refine .inr ⟨passed, refused, unseen, htests, hpassed, hrefused, ?_⟩
      rw [hverdict, htests, inOrder_of_refuses hpassed hrefused]
  · simp only [verdict_eq_inOrder, tests_add, List.append_assoc]
  · rfl
  · simp only [verdict_eq_inOrder, tests, List.append_nil]
  · rw [EdgeDraft.ofCalls_eq, verdict_eq_inOrder]
    exact congrArg (inOrder payload event) (tests_all _)

end Guard

end RoundTable
