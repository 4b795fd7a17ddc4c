import RoundTable.Session.Basic

/-!
# Sessions that come to rest

A session that is left to itself takes steps in any order, until no step is possible any more. What
is said of it here is said of every order: whichever steps it takes, there are finitely many, and
something holds when it has come to rest.

## Main definitions

* `Session.Settles`: however the session goes on, it comes to rest, and then something holds

## Main results

* `Session.Settles.meet`: two things that hold at rest hold together somewhere
-/

namespace RoundTable

namespace Session

variable {ρ : Type} {P Q : Session ρ → Prop} {session : Session ρ}

/-- However the session goes on, it comes to rest after finitely many steps, and then `P` holds. -/
inductive Settles (P : Session ρ → Prop) : Session ρ → Prop where
  | intro {session : Session ρ} (rest : (∀ label, session.step? label = none) → P session)
    (step : ∀ label after, session.step? label = some after → Settles P after) : Settles P session

/-- Two things that hold at rest, in whatever order it was come by, hold together somewhere. -/
theorem Settles.meet (hP : session.Settles P) (hQ : session.Settles Q) :
    ∃ rested, P rested ∧ Q rested := by
  induction hP with
  | @intro session rest _ ih =>
    obtain ⟨rest', step'⟩ := hQ
    by_cases hstep : ∃ label after, session.step? label = some after
    case pos =>
      obtain ⟨label, after, hstep⟩ := hstep
      exact ih label after hstep (step' label after hstep)
    case neg =>
      have hrest (label : Label) : session.step? label = none :=
        Option.eq_none_iff_forall_ne_some.mpr fun after h => hstep ⟨label, after, h⟩
      exact ⟨session, rest hrest, rest' hrest⟩

end Session

end RoundTable
