import RoundTable.Program.Turn
import RoundTable.Proofs.Walk.Composition

/-!
# The steps of a turn

A turn is walked by putting its steps to a resolver, one after another, and what the resolver answers
decides which steps come next and what they contain. Here the steps are listed as the rules of the
game have them, given the answers, and it is shown that a walk follows the list: to its end, or to
the first step that fails, and no further.

## Main definitions

* `StepTree.record`: a walk that keeps what was put to the resolver and what came of it
* `StepTree.Course`: the answers with which a tree of steps is walked to its end
* `Yields`: what a computation comes to, in whatever monad
* `TurnAnswers`, `TurnAnswers.steps`, `TurnAnswers.report`: what a turn consists of

## Main results

* `StepTree.yields_record`: walks follow courses, and stop where a step fails
* `Program.course_playTurn`: the courses of a turn
* `Program.turn_as_prescribed`: a turn consists of the steps that the rules have
-/

namespace RoundTable

/-! ### What computations come to -/

section

variable {m : Type → Type} [Monad m] {α β : Type}

/-- Whatever a computation comes to has a property. -/
def Yields (holds : α → Prop) (computation : m α) : Prop :=
  ∃ sure : m { a // holds a }, Subtype.val <$> sure = computation

variable [LawfulMonad m] {holds : α → Prop} {holds' : β → Prop}

theorem yields_true (computation : m α) : Yields (fun _ => True) computation :=
  ⟨(fun a => ⟨a, trivial⟩) <$> computation, by simp⟩

theorem yields_pure {a : α} (h : holds a) : Yields holds (pure a : m α) :=
  ⟨pure ⟨a, h⟩, by simp⟩

theorem Yields.bind {computation : m α} {next : α → m β} (h : Yields holds computation)
    (hnext : ∀ a, holds a → Yields holds' (next a)) : Yields holds' (computation >>= next) := by
  obtain ⟨sure, rfl⟩ := h
  refine ⟨sure >>= fun a => (hnext a.1 a.2).choose, ?_⟩
  rw [map_bind, bind_map_left]
  exact bind_congr fun a => (hnext a.1 a.2).choose_spec

theorem Yields.mono {computation : m α} {holds' : α → Prop} (h : Yields holds computation)
    (himp : ∀ a, holds a → holds' a) : Yields holds' computation := by
  obtain ⟨sure, rfl⟩ := h
  exact ⟨(fun a => ⟨a.1, himp a.1 a.2⟩) <$> sure, by simp⟩

/-- So it is with a computation that works on a state. -/
theorem Yields.run {σ : Type} {computation : StateM σ α} (h : Yields holds computation)
    (before : σ) : holds (computation.run before).1 := by
  obtain ⟨sure, rfl⟩ := h
  exact (sure.run before).1.2

end

/-! ### Walks and what comes of their steps -/

/-- A step and its answer. -/
structure Answered where
  /-- The step. -/
  request : Request
  /-- The answer. -/
  answer : request.Answer

/-- A step that was put to a resolver, and what came of it. -/
structure Attempt where
  /-- The step. -/
  request : Request
  /-- The answer, or why there is none. -/
  result : Except Failure request.Answer

/-- An attempt that has led to an answer. -/
def Answered.attempt (step : Answered) : Attempt := ⟨step.request, .ok step.answer⟩

/-- An attempt at the same step that has failed. -/
def Answered.missed (step : Answered) (failure : Failure) : Attempt :=
  ⟨step.request, .error failure⟩

namespace StepTree

variable {m : Type → Type} [Monad m] {α β : Type}

/-- Walks a tree of steps, and keeps what was put to the resolver and what came of it. -/
def record (resolve : Resolver m) : StepTree α → m (Except Failure α × List Attempt)
  | .done result => pure (.ok result, [])
  | .ask request next => do
    match ← (resolve request).run with
    | .error failure => pure (.error failure, [⟨request, .error failure⟩])
    | .ok answer =>
      let (result, attempts) ← record resolve (next answer)
      pure (result, ⟨request, .ok answer⟩ :: attempts)

/-- The answers with which a tree is walked to its end. -/
inductive Course : StepTree α → List Answered → α → Prop where
  | done (a : α) : Course (.done a) [] a
  | ask {request : Request} {next : request.Answer → StepTree α} {steps : List Answered} {a : α}
    (answer : request.Answer) (rest : Course (next answer) steps a) :
    Course (.ask request next) (⟨request, answer⟩ :: steps) a

/-- How a walk may go: along a course to its end, or to a step of a course that fails. -/
inductive Walked (tree : StepTree α) : Except Failure α × List Attempt → Prop where
  | finished {steps : List Answered} {a : α} (h : Course tree steps a) :
    Walked tree (.ok a, steps.map Answered.attempt)
  | failed {past rest : List Answered} {step : Answered} {a : α} (failure : Failure)
    (h : Course tree (past ++ step :: rest) a) :
    Walked tree (.error failure, past.map Answered.attempt ++ [step.missed failure])

/-- There is an answer to every step. -/
theorem nonempty_answer (request : Request) : Nonempty request.Answer := by
  cases request with
  | getGameState => exact ⟨⟨.zero, [], [], [], .empty, .play, 0, none⟩⟩
  | selectPlayer => exact ⟨(⟨0⟩ : PlayerId)⟩
  | playCard => exact ⟨.bug .coreDump⟩
  | selectAttack => exact ⟨.coreDump⟩
  | checkStumbling | selectResponse => exact ⟨none⟩
  | selectDiscardCards | drawCards => exact ⟨[]⟩
  | attackPlayer | defendAttack | handleStumbling => exact ⟨.success⟩
  | discard => exact ⟨()⟩

theorem exists_course (tree : StepTree α) : ∃ steps a, Course tree steps a := by
  induction tree with
  | done a => exact ⟨[], a, .done a⟩
  | ask request next ih =>
    obtain ⟨answer⟩ := nonempty_answer request
    obtain ⟨steps, a, hrest⟩ := ih answer
    exact ⟨_, a, .ask answer hrest⟩

theorem course_bind {tree : StepTree α} {next : α → StepTree β} {steps : List Answered} {b : β} :
    Course (tree.bind next) steps b ↔
      ∃ first a rest, Course tree first a ∧ Course (next a) rest b ∧ steps = first ++ rest := by
  constructor
  · intro h
    induction tree generalizing steps with
    | done a => exact ⟨[], a, steps, .done a, h, rfl⟩
    | ask request tree ih =>
      cases h with
      | ask answer hrest =>
        obtain ⟨first, a, rest, hfirst, hlast, rfl⟩ := ih answer hrest
        exact ⟨_, a, rest, .ask answer hfirst, hlast, rfl⟩
  · rintro ⟨first, a, rest, hfirst, hlast, rfl⟩
    induction hfirst with
    | done a => exact hlast
    | ask answer _ ih => exact .ask answer (ih hlast)

variable [LawfulMonad m]

/-- What came of the steps aside, a walk that keeps it is a walk. -/
theorem fst_record (resolve : Resolver m) (tree : StepTree α) :
    Prod.fst <$> record resolve tree = (Interaction.run resolve tree).run := by
  induction tree with
  | done result => simp [record, Interaction.run]
  | ask request next ih =>
    simp only [record, Interaction.run, map_bind, ExceptT.run_bind]
    refine bind_congr fun answered => ?_
    cases answered with
    | error failure => simp
    | ok answer => simp [← ih answer]

/-- **Walks follow courses**, whoever resolves the steps, and stop where a step fails. -/
theorem yields_record (resolve : Resolver m) (tree : StepTree α) :
    Yields (Walked tree) (record resolve tree) := by
  induction tree with
  | done a => exact yields_pure (.finished (.done a))
  | ask request next ih =>
    rw [record]
    refine (yields_true (resolve request).run).bind fun answered _ => ?_
    cases answered with
    | error failure =>
      -- any course that leads through the step will do
      obtain ⟨answer⟩ := nonempty_answer request
      obtain ⟨rest, a, hrest⟩ := exists_course (next answer)
      have hcourse : Course (Interaction.ask request next) ([] ++ ⟨request, answer⟩ :: rest) a :=
        .ask answer hrest
      exact yields_pure (Walked.failed failure hcourse)
    | ok answer =>
      refine (ih answer).bind fun walked hwalked => yields_pure ?_
      cases hwalked with
      | finished h => exact .finished (.ask answer h)
      | @failed past rest step a failure h =>
        have hcourse : Course (Interaction.ask request next)
            ((⟨request, answer⟩ :: past) ++ step :: rest) a := .ask answer h
        exact Walked.failed failure hcourse

end StepTree

/-- Walks a program, and keeps what was put to the resolver and what came of it. -/
def Program.record {m : Type → Type} [Monad m] {α : Type} (resolve : Resolver m)
    (program : Program α) : m (Except Failure α × List Attempt) :=
  StepTree.record resolve program.tree

/-! ### What a turn consists of -/

/-- The steps of dealing with a stumbling card, if there is one. -/
def stumblingSteps (blocked via : Option Card) (handled : Outcome) : List Answered :=
  ⟨.checkStumbling, blocked⟩ ::
    if blocked.isSome then [⟨.selectResponse, via⟩, ⟨.handleStumbling via, handled⟩] else []

/-- The steps of an attack on the player of one's choice. -/
def attackSteps (target : PlayerId) (bug : BugReport) (attack : Outcome) : List Answered :=
  [⟨.selectPlayer, target⟩, ⟨.selectAttack, bug⟩, ⟨.attackPlayer target bug, attack⟩]

/-- The steps of giving away what is too much. -/
def discardSteps (state : GameState) (chosen : List Card) : List Answered :=
  ⟨.getGameState, state⟩ ::
    if 0 < state.excess then
      [⟨.selectDiscardCards state.excess, chosen⟩, ⟨.discard chosen, ()⟩]
    else []

/-- What the steps of a turn are answered. -/
structure TurnAnswers where
  /-- The stumbling card in front of the player. -/
  blocked : Option Card
  /-- What the player answers it with. -/
  via : Option Card
  /-- What comes of that. -/
  handled : Outcome
  /-- The cards drawn. -/
  drawn : List Card
  /-- The player attacked. -/
  target : PlayerId
  /-- The bug of the attack. -/
  bug : BugReport
  /-- What comes of the attack. -/
  attack : Outcome
  /-- What the player sees in the end. -/
  state : GameState
  /-- The cards chosen to be given away. -/
  chosen : List Card

namespace TurnAnswers

/-- The steps of a turn, in order. -/
def steps (answers : TurnAnswers) : List Answered :=
  stumblingSteps answers.blocked answers.via answers.handled ++
    ⟨.drawCards, answers.drawn⟩ :: attackSteps answers.target answers.bug answers.attack ++
    discardSteps answers.state answers.chosen

/-- The report of a turn. Where nothing lies in the way that is a success, and where nothing is too
much nothing is given away. -/
def report (answers : TurnAnswers) : TurnReport where
  stumbling := if answers.blocked.isSome then answers.handled else .success
  drawn := answers.drawn
  attack := answers.attack
  discarded := if 0 < answers.state.excess then answers.chosen else []

end TurnAnswers

namespace Program

open StepTree

variable {α β : Type} {steps : List Answered}

theorem tree_bind (program : Program α) (next : α → Program β) :
    (program >>= next).tree = program.tree.bind fun a => (next a).tree :=
  tree_andThen program next

theorem tree_resolved (request : Request) :
    request.resolved.tree = .ask request Interaction.done := by
  simp only [Request.resolved, tree, Queue.tree]

theorem course_done {a b : α} : Course (done a).tree steps b ↔ steps = [] ∧ b = a := by
  constructor
  · intro h
    cases h
    exact ⟨rfl, rfl⟩
  · rintro ⟨rfl, rfl⟩
    exact .done b

theorem course_resolved {request : Request} {answer : request.Answer} :
    Course request.resolved.tree steps answer ↔ steps = [⟨request, answer⟩] := by
  rw [tree_resolved]
  constructor
  · intro h
    cases h with
    | ask _ hrest =>
      cases hrest
      rfl
  · rintro rfl
    exact .ask answer (.done answer)

/-- The courses of a program and what follows. -/
theorem course_andThen {program : Program α} {next : α → Program β} {b : β} :
    Course (program >>= next).tree steps b ↔
      ∃ first a rest, Course program.tree first a ∧ Course (next a).tree rest b ∧
        steps = first ++ rest := by
  rw [tree_bind, course_bind]

/-- The courses of a step and what follows. -/
theorem course_step {request : Request} {next : request.Answer → Program β} {b : β} :
    Course (request.resolved >>= next).tree steps b ↔
      ∃ answer rest, Course (next answer).tree rest b ∧ steps = ⟨request, answer⟩ :: rest := by
  simp only [course_andThen, course_resolved]
  constructor
  · rintro ⟨_, answer, rest, rfl, hrest, rfl⟩
    exact ⟨answer, rest, hrest, rfl⟩
  · rintro ⟨answer, rest, hrest, rfl⟩
    exact ⟨_, answer, rest, rfl, hrest, rfl⟩

theorem course_handleStumblingCard {outcome : Outcome} :
    Course handleStumblingCard.tree steps outcome ↔ ∃ blocked via handled,
      steps = stumblingSteps blocked via handled ∧
        outcome = if blocked.isSome then handled else .success := by
  rw [handleStumblingCard, course_step]
  constructor
  · rintro ⟨blocked, rest, hrest, rfl⟩
    cases blocked with
    | none =>
      obtain ⟨rfl, rfl⟩ := course_done.mp hrest
      exact ⟨none, none, .success, rfl, rfl⟩
    | some card =>
      obtain ⟨via, last, hlast, rfl⟩ := course_step.mp hrest
      rw [course_resolved.mp hlast]
      exact ⟨some card, via, outcome, rfl, rfl⟩
  · rintro ⟨blocked, via, handled, rfl, rfl⟩
    cases blocked with
    | none => exact ⟨none, [], course_done.mpr ⟨rfl, rfl⟩, rfl⟩
    | some card =>
      exact ⟨some card, _, course_step.mpr ⟨via, _, course_resolved.mpr rfl, rfl⟩, rfl⟩

theorem course_attackSomebody {outcome : Outcome} :
    Course attackSomebody.tree steps outcome ↔ ∃ target bug,
      steps = attackSteps target bug outcome := by
  rw [attackSomebody, course_step]
  constructor
  · rintro ⟨target, rest, hrest, rfl⟩
    obtain ⟨bug, last, hlast, rfl⟩ := course_step.mp hrest
    rw [course_resolved.mp hlast]
    exact ⟨target, bug, rfl⟩
  · rintro ⟨target, bug, rfl⟩
    exact ⟨target, _, course_step.mpr ⟨bug, _, course_resolved.mpr rfl, rfl⟩, rfl⟩

theorem course_discardExcess {cards : List Card} :
    Course discardExcess.tree steps cards ↔ ∃ state chosen,
      steps = discardSteps state chosen ∧ cards = if 0 < state.excess then chosen else [] := by
  rw [discardExcess, course_step]
  constructor
  · rintro ⟨state, rest, hrest, rfl⟩
    by_cases hexcess : GameState.excess state = 0
    · rw [if_pos hexcess] at hrest
      obtain ⟨rfl, rfl⟩ := course_done.mp hrest
      exact ⟨state, [], by simp [discardSteps, hexcess], by simp⟩
    · rw [if_neg hexcess] at hrest
      obtain ⟨chosen, later, hlater, rfl⟩ := course_step.mp hrest
      obtain ⟨_, last, hlast, rfl⟩ := course_step.mp hlater
      obtain ⟨rfl, rfl⟩ := course_done.mp hlast
      have hpos : 0 < GameState.excess state := Nat.pos_of_ne_zero hexcess
      exact ⟨state, cards, by rw [discardSteps, if_pos hpos], by rw [if_pos hpos]⟩
  · rintro ⟨state, chosen, rfl, rfl⟩
    by_cases hexcess : state.excess = 0
    · refine ⟨state, [], ?_, by simp [discardSteps, hexcess]⟩
      rw [if_pos hexcess, hexcess]
      exact course_done.mpr ⟨rfl, rfl⟩
    · have hpos : 0 < state.excess := Nat.pos_of_ne_zero hexcess
      refine ⟨state, _, ?_, by rw [discardSteps, if_pos hpos]⟩
      rw [if_neg hexcess, if_pos hpos]
      exact course_step.mpr ⟨chosen, _, course_step.mpr ⟨(), [], course_done.mpr ⟨rfl, rfl⟩, rfl⟩,
        rfl⟩

/-- **The courses of a turn.** -/
theorem course_playTurn {report : TurnReport} :
    Course playTurn.tree steps report ↔
      ∃ answers : TurnAnswers, steps = answers.steps ∧ report = answers.report := by
  rw [playTurn, course_andThen]
  constructor
  · rintro ⟨first, stumbling, rest, hfirst, hrest, rfl⟩
    obtain ⟨drawn, later, hlater, rfl⟩ := course_step.mp hrest
    obtain ⟨second, attack, last, hsecond, hlast, rfl⟩ := course_andThen.mp hlater
    obtain ⟨third, discarded, nothing, hthird, hnothing, rfl⟩ := course_andThen.mp hlast
    obtain ⟨blocked, via, handled, rfl, rfl⟩ := course_handleStumblingCard.mp hfirst
    obtain ⟨target, bug, rfl⟩ := course_attackSomebody.mp hsecond
    obtain ⟨state, chosen, rfl, rfl⟩ := course_discardExcess.mp hthird
    obtain ⟨rfl, rfl⟩ := course_done.mp hnothing
    refine ⟨⟨blocked, via, handled, drawn, target, bug, attack, state, chosen⟩, ?_, rfl⟩
    simp [TurnAnswers.steps]
  · rintro ⟨answers, rfl, rfl⟩
    refine ⟨stumblingSteps answers.blocked answers.via answers.handled, _, _,
      course_handleStumblingCard.mpr ⟨_, _, _, rfl, rfl⟩,
      course_step.mpr ⟨answers.drawn, _, course_andThen.mpr
        ⟨attackSteps answers.target answers.bug answers.attack, _, _,
          course_attackSomebody.mpr ⟨_, _, rfl⟩, course_andThen.mpr
            ⟨discardSteps answers.state answers.chosen, _, [],
              course_discardExcess.mpr ⟨_, _, rfl, rfl⟩, course_done.mpr ⟨rfl, rfl⟩, rfl⟩, rfl⟩,
        rfl⟩, ?_⟩
    simp [TurnAnswers.steps]

/-- **A turn consists of the steps that the rules have**, whoever resolves them and whatever is
answered. What lies in the way is looked at first; if there is something, the player is asked for a
response, and it is dealt with by the card that has been answered. Then cards are drawn, the attack
is made on the player and with the bug that have been chosen, and the state is looked at; if the hand
of its current player has more cards than points of mental health are left, then so many cards are
chosen, and those that have been chosen are given away. If no step fails, the report is made of what
came of these steps; and if one fails, that is what comes of the turn, and no step is taken after
it. -/
theorem turn_as_prescribed {m : Type → Type} [Monad m] [LawfulMonad m] (authority : Authority m)
    (participant : Participant m) :
    let resolve := authority.beside participant
    Prod.fst <$> playTurn.record resolve = (playTurn.run resolve).run ∧
    Yields (fun walked =>
      (∃ answers : TurnAnswers,
        walked = (.ok answers.report, answers.steps.map Answered.attempt)) ∨
      ∃ (answers : TurnAnswers) (past : List Answered) (step : Answered) (rest : List Answered)
        (failure : Failure), answers.steps = past ++ step :: rest ∧
          walked = (.error failure, past.map Answered.attempt ++ [step.missed failure]))
      (playTurn.record resolve) := by
  intro resolve
  refine ⟨fst_record resolve playTurn.tree, ?_⟩
  refine (yields_record resolve playTurn.tree).mono fun walked hwalked => ?_
  cases hwalked with
  | finished h =>
    obtain ⟨answers, rfl, rfl⟩ := course_playTurn.mp h
    exact .inl ⟨answers, rfl⟩
  | @failed past rest step report failure h =>
    obtain ⟨answers, hsteps, -⟩ := course_playTurn.mp h
    exact .inr ⟨answers, past, step, rest, failure, hsteps.symm, rfl⟩

/-- Answers everything, and shows a state in which the current player has a card too many. -/
def obliging : Script where
  replies
    | "CheckStumbling" => [.optionalCard (some (.stumbling .fortranMaintenance))]
    | "SelectResponse" => [.optionalCard none]
    | "SelectPlayer" => [.player ⟨1⟩]
    | "SelectAttack" => [.bug .coreDump]
    | "GetGameState" =>
      [.state (.opening .zero
        [⟨⟨0⟩, "", .manager, .kentBeck, 1, 0, [.bug .coreDump, .excuse .worksForMe]⟩] [])]
    | "SelectDiscardCards" | "DrawCards" => [.cards [.bug .coreDump]]
    | "Discard" => [.unit]
    | _ => [.outcome .failure]

theorem turn_as_prescribed_obliging :
    let resolve : Resolver (StateM Cues) :=
      (Authority.ofResolver obliging.resolver).beside (.ofResolver obliging.resolver)
    let walked := ((playTurn.record resolve).run .none).1
    walked.2.map Attempt.request =
      [.checkStumbling, .selectResponse, .handleStumbling none, .drawCards, .selectPlayer,
        .selectAttack, .attackPlayer ⟨1⟩ .coreDump, .getGameState, .selectDiscardCards 1,
        .discard [.bug .coreDump]] ∧
    ∃ answers : TurnAnswers,
      walked = (.ok answers.report, answers.steps.map Answered.attempt) := by
  intro resolve walked
  have hrequests : walked.2.map Attempt.request =
      [.checkStumbling, .selectResponse, .handleStumbling none, .drawCards, .selectPlayer,
        .selectAttack, .attackPlayer ⟨1⟩ .coreDump, .getGameState, .selectDiscardCards 1,
        .discard [.bug .coreDump]] := by
    decide +kernel
  have hdone : walked.1.toOption.isSome = true := by decide +kernel
  refine ⟨hrequests, ?_⟩
  obtain ⟨answers, hwalked⟩ | ⟨answers, past, step, rest, failure, -, hwalked⟩ :=
    ((turn_as_prescribed (Authority.ofResolver obliging.resolver)
      (.ofResolver obliging.resolver)).2.run .none : _ ∨ _)
  · exact ⟨answers, hwalked⟩
  · have hfailed : walked.1 = .error failure := congrArg Prod.fst hwalked
    rw [hfailed] at hdone
    cases hdone

end Program

end RoundTable
