import RoundTable.Proofs.Walk.TurnSteps
import RoundTable.Walk.AtTable
import RoundTable.Walk.Chooser

/-!
# Who is consulted

A step says by its side who has to resolve it. Four tables have to agree on this: the sides of the
steps, the walk, which puts each step to an authority or to a participant, and the two stubs that
stand for an authority or a participant where there is none. They do: a walk consults the authority
about the steps of the server and the participant about the others, with what the steps contain; and
a request that has come to the wrong party, or from one, is refused before anything is done for it.

## Main definitions

* `WellRouted`: attempts that never come to the failure of a request at the wrong party
* `Consultation`, `Authority.noted`, `Participant.noted`: to note who is consulted about what

## Main results

* `Authority.beside_noted`: about each step it is the party on its side that is consulted
* `StepTree.run_noted`: the consultations of a walk are its steps
* `Executor.misrouted_fails_closed`: requests at the wrong party, and the consultations of any walk
-/

namespace RoundTable

variable {m : Type → Type} [Monad m]

/-! ### Consultations -/

/-- A party on some side has been consulted about a step. -/
structure Consultation where
  /-- The side of the party. -/
  side : Side
  /-- The step, with what it contains. -/
  request : Request
  deriving DecidableEq

/-- To consult the right party about a step. -/
def Request.consultation (request : Request) : Consultation := ⟨request.side, request⟩

/-- Notes a consultation, whatever comes of it. -/
def noted {α : Type} (consultation : Consultation) (attempt : ExceptT Failure m α) :
    ExceptT Failure (StateT (List Consultation) m) α :=
  ExceptT.mk fun notes => do
    let result ← attempt.run
    return (result, notes ++ [consultation])

/-- The same authority, and whenever it is consulted that is noted. -/
def Authority.noted (authority : Authority m) : Authority (StateT (List Consultation) m) where
  drawCards := RoundTable.noted ⟨.server, .drawCards⟩ authority.drawCards
  attackPlayer target bug :=
    RoundTable.noted ⟨.server, .attackPlayer target bug⟩ (authority.attackPlayer target bug)
  defendAttack defence :=
    RoundTable.noted ⟨.server, .defendAttack defence⟩ (authority.defendAttack defence)
  handleStumbling via :=
    RoundTable.noted ⟨.server, .handleStumbling via⟩ (authority.handleStumbling via)
  discard cards := RoundTable.noted ⟨.server, .discard cards⟩ (authority.discard cards)

/-- The same participant, and whenever they are consulted that is noted. -/
def Participant.noted (participant : Participant m) :
    Participant (StateT (List Consultation) m) where
  checkStumbling := RoundTable.noted ⟨.client, .checkStumbling⟩ participant.checkStumbling
  selectResponse := RoundTable.noted ⟨.client, .selectResponse⟩ participant.selectResponse
  playCard := RoundTable.noted ⟨.client, .playCard⟩ participant.playCard
  selectPlayer := RoundTable.noted ⟨.client, .selectPlayer⟩ participant.selectPlayer
  selectAttack := RoundTable.noted ⟨.client, .selectAttack⟩ participant.selectAttack
  selectDiscardCards amount :=
    RoundTable.noted ⟨.client, .selectDiscardCards amount⟩ (participant.selectDiscardCards amount)
  gameState := RoundTable.noted ⟨.client, .getGameState⟩ participant.gameState

/-- **About each step it is the party on its side that is consulted**, with what it contains. -/
theorem Authority.beside_noted (authority : Authority m) (participant : Participant m)
    (request : Request) :
    authority.noted.beside participant.noted request =
      RoundTable.noted request.consultation (authority.beside participant request) := by
  cases request <;> rfl

section

variable [LawfulMonad m] {α β : Type}

/-- Once a consultation has been noted, one goes on if an answer has come of it. -/
theorem run_noted_bind (consultation : Consultation) (attempt : ExceptT Failure m α)
    (next : α → ExceptT Failure (StateT (List Consultation) m) β) (notes : List Consultation) :
    (noted consultation attempt >>= next).run.run notes = (do
      match ← attempt.run with
      | .ok a => (next a).run.run (notes ++ [consultation])
      | .error failure => pure (.error failure, notes ++ [consultation])) := by
  have hnoted : (noted consultation attempt).run.run notes =
      attempt.run >>= fun result => pure (result, notes ++ [consultation]) := rfl
  rw [ExceptT.run_bind, StateT.run_bind, hnoted, bind_assoc]
  refine bind_congr fun result => ?_
  rw [pure_bind]
  cases result <;> rfl

/-- **The consultations of a walk are its steps**, each at its side. -/
theorem StepTree.run_noted (authority : Authority m) (participant : Participant m)
    (tree : StepTree α) (notes : List Consultation) :
    (Interaction.run (authority.noted.beside participant.noted) tree).run.run notes =
      (fun walked => (walked.1, notes ++ walked.2.map Request.consultation)) <$>
        StepTree.walk (authority.beside participant) tree := by
  induction tree generalizing notes with
  | done result => simp [Interaction.run, StepTree.walk]
  | ask request next ih =>
    rw [Interaction.run, StepTree.walk, Authority.beside_noted, run_noted_bind, map_bind]
    refine bind_congr fun answered => ?_
    cases answered with
    | error failure => simp
    | ok answer => simp [ih]

end

/-! ### Attempts that keep to their route -/

/-- Whatever comes of an attempt, it is not the failure of a request at the wrong party. -/
def WellRouted {α : Type} (attempt : ExceptT Failure m α) : Prop :=
  Yields (fun result => ∀ reason, result ≠ .error (.routing reason)) attempt.run

section

variable [LawfulMonad m] {α β : Type}

theorem wellRouted_pure (a : α) : WellRouted (pure a : ExceptT Failure m α) :=
  yields_pure fun _ => nofun

theorem wellRouted_throw {failure : Failure} (h : ∀ reason, failure ≠ .routing reason) :
    WellRouted (throw failure : ExceptT Failure m α) :=
  yields_pure fun reason heq => h reason (Except.error.inj heq)

theorem WellRouted.bind {attempt : ExceptT Failure m α} {next : α → ExceptT Failure m β}
    (h : WellRouted attempt) (hnext : ∀ a, WellRouted (next a)) :
    WellRouted (attempt >>= next) := by
  rw [WellRouted, ExceptT.run_bind]
  refine Yields.bind h fun result hresult => ?_
  cases result with
  | ok a => exact hnext a
  | error failure =>
    have hfailure (reason : String) : failure ≠ .routing reason := fun heq =>
      hresult reason (congrArg Except.error heq)
    exact wellRouted_throw hfailure

/-- To look at something does not fail. -/
theorem wellRouted_lift (computation : m α) : WellRouted (ExceptT.lift computation) := by
  have hrun : (ExceptT.lift computation : ExceptT Failure m α).run =
      computation >>= fun a => pure (.ok a) := map_eq_pure_bind _ _
  rw [WellRouted, hrun]
  exact (yields_true computation).bind fun a _ => yields_pure fun _ => nofun

/-- A step that is refused is a request that is refused. -/
theorem run_program_of_throw {resolve : Resolver m} {request : Request} {failure : Failure}
    (h : resolve request = throw failure) : request.program.run resolve = throw failure := by
  rw [Request.run_program, h]
  exact ExceptT.ext (by simp)

/-- A request is carried out as well as its step is taken. -/
theorem wellRouted_program {resolve : Resolver m} {request : Request}
    (h : WellRouted (resolve request)) : WellRouted (request.program.run resolve) := by
  rw [Request.run_program]
  exact h.bind fun answer => wellRouted_pure _

/-! ### Participants -/

theorem wellRouted_chosen (what : String) (choice : Option α) :
    WellRouted (Chooser.chosen (m := m) what choice) := by
  cases choice with
  | none => exact wellRouted_throw fun _ => nofun
  | some a => exact wellRouted_pure a

/-- Whoever makes choices can be asked for any of them. -/
theorem wellRouted_choosing (observe : m GameState) (me : PlayerId) (chooser : Chooser)
    (authority : Authority m) {request : Request} (hside : request.side = .client) :
    WellRouted (authority.beside (.choosing observe me chooser) request) := by
  cases request with
  | checkStumbling | selectResponse =>
    exact (wellRouted_lift observe).bind fun state => wellRouted_pure _
  | getGameState => exact wellRouted_lift observe
  | playCard | selectPlayer | selectAttack | selectDiscardCards =>
    exact (wellRouted_lift observe).bind fun state => wellRouted_chosen _ _
  | _ => cases hside

/-! ### The table -/

variable (access : Access m)

/-- A refusal of the table is no question of routes. -/
theorem ofRefusal_ne_routing (refusal : Refusal) (reason : String) :
    Failure.ofRefusal refusal ≠ .routing reason := by
  cases refusal <;> exact nofun

theorem wellRouted_send (event : GameEvent) : WellRouted (access.send event) := by
  refine (wellRouted_lift (access.apply event)).bind fun result => ?_
  cases result with
  | ok states => exact wellRouted_pure states
  | error refusal => exact wellRouted_throw (ofRefusal_ne_routing refusal)

theorem wellRouted_sendOr (preferred fallback : GameEvent) :
    WellRouted (access.sendOr preferred fallback) := by
  refine (wellRouted_lift (access.applyOr preferred fallback)).bind fun result => ?_
  cases result with
  | ok fits => exact wellRouted_pure fits
  | error refusal => exact wellRouted_throw (ofRefusal_ne_routing refusal)

theorem wellRouted_settleAttack (origin victim : PlayerId) (defence : Option Card) :
    WellRouted (access.settleAttack origin victim defence) := by
  cases defence with
  | none => exact (wellRouted_send access _).bind fun _ => wellRouted_pure _
  | some card => exact (wellRouted_sendOr access _ _).bind fun _ => wellRouted_pure _

/-- Whatever step of the server is taken at the table but an attack, nobody else is asked. -/
theorem wellRouted_atTable (origin : PlayerId) (participant : Participant m) {request : Request}
    (hside : request.side = .server) (hattack : ∀ target bug, request ≠ .attackPlayer target bug) :
    WellRouted ((Authority.atTable access origin).beside participant request) := by
  cases request with
  | drawCards | discard => exact (wellRouted_send access _).bind fun _ => wellRouted_pure _
  | attackPlayer target bug => exact absurd rfl (hattack target bug)
  | defendAttack defence =>
    refine (wellRouted_lift access.observe).bind fun state => ?_
    split
    · exact (wellRouted_settleAttack access origin origin defence).bind fun _ => wellRouted_pure _
    · exact wellRouted_throw fun _ => nofun
  | handleStumbling via =>
    cases via with
    | none => exact (wellRouted_send access _).bind fun _ => wellRouted_pure _
    | some card => exact (wellRouted_sendOr access _ _).bind fun _ => wellRouted_pure _
  | _ => cases hside

/-! ### Attacks -/

/-- What is made of the word of a victim: no word is an answer without a card, unless the question
has shown that the parties are connected wrongly. -/
def heard (answer : Except Failure (Option Card)) : ExceptT Failure m (Option Card) :=
  match answer with
  | .ok defence => pure defence
  | .error failure => if failure.isFatal then throw failure else pure none

theorem askVictim_eq (victim : PlayerId) :
    access.askVictim victim =
      ExceptT.lift (access.ask victim .selectResponse).run >>= heard := by
  refine ExceptT.ext ?_
  have hlift (answered : m (Except Failure (Option Card))) :
      (ExceptT.lift answered >>= heard).run = answered >>= fun answer => (heard answer).run := by
    simp
  rw [hlift]
  refine bind_congr fun answer => ?_
  cases answer <;> rfl

/-- How an attack goes on once the question to the victim has been answered, or has failed. -/
def Access.afterQuestion (origin victim : PlayerId) (answer : Except Failure (Option Card)) :
    ExceptT Failure m Reply := do
  let defence ← heard answer
  let outcome ← access.settleAttack origin victim defence
  return .outcome outcome

theorem execute_attackPlayer (id target : PlayerId) (bug : BugReport) :
    Executor.atTable access (.participant id) (.attackPlayer target bug) = (do
      let _ ← access.send (.reportBug id target bug)
      let answer ← ExceptT.lift (access.ask target .selectResponse).run
      access.afterQuestion id target answer) := by
  have hexecute : Executor.atTable access (.participant id) (.attackPlayer target bug) =
      (do
        let _ ← access.send (.reportBug id target bug)
        let defence ← access.askVictim target
        access.settleAttack id target defence) >>= fun outcome => pure (.outcome outcome) := rfl
  simp only [hexecute, askVictim_eq, bind_assoc, Access.afterQuestion]

/-- Only the question can have been routed wrongly. -/
theorem yields_afterQuestion (origin victim : PlayerId) (answer : Except Failure (Option Card)) :
    Yields (fun result => ∀ reason,
        result = .error (.routing reason) ↔ answer = .error (.routing reason))
      (access.afterQuestion origin victim answer).run := by
  have hsettled (defence : Option Card)
      (hanswer : ∀ reason, answer ≠ .error (.routing reason)) :
      Yields (fun result => ∀ reason,
          result = .error (.routing reason) ↔ answer = .error (.routing reason))
        (access.settleAttack origin victim defence >>= fun outcome =>
          pure (Reply.outcome outcome)).run := by
    have hrouted : WellRouted (access.settleAttack origin victim defence >>= fun outcome =>
        pure (Reply.outcome outcome)) :=
      (wellRouted_settleAttack access origin victim defence).bind fun _ => wellRouted_pure _
    exact Yields.mono hrouted fun result hresult reason =>
      iff_of_false (hresult reason) (hanswer reason)
  rw [Access.afterQuestion]
  cases answer with
  | ok defence =>
    rw [heard, pure_bind]
    exact hsettled defence fun _ => nofun
  | error failure =>
    rw [heard]
    by_cases hfatal : failure.isFatal = true
    · rw [if_pos hfatal, ExceptT.run_bind, ExceptT.run_throw, pure_bind]
      exact yields_pure fun reason => by simp only [Except.error.injEq]
    · rw [if_neg hfatal, pure_bind]
      refine hsettled none fun reason heq => hfatal ?_
      rw [Except.error.inj heq]
      rfl

end

/-! ### Requests at the wrong party -/

/-- **Wrongly routed requests fail closed.** A participant refuses whatever does not come from the
server, and the steps of the server, whoever the participant is, so without looking at the table or
making a choice; all else that the server asks for never comes to such a failure. The server refuses
whatever is said to come from itself, and the steps of participants, whatever the table is, so
without an event or a question; what participants ask of it otherwise does not come to such a
failure, unless it is an attack: once that has been reported, a question is put to the victim, and
the attack comes to such a failure exactly if the question does.

In general, whoever resolves the steps, a walk consults the authority about the steps of the server
and the participant about the others, in order, each with the pending step and what it contains; and
the notes that are taken of it change nothing about the walk. -/
theorem Executor.misrouted_fails_closed {m : Type → Type} [Monad m] [LawfulMonad m] :
    (∀ (origin : Party) (request : Request),
      (origin ≠ .server ∨ request.side = .server → ∃ reason, ∀ participant : Participant m,
        Executor.choosing participant origin request = throw (.routing reason)) ∧
      (origin = .server ∧ request.side = .client →
        ∀ (observe : m GameState) (me : PlayerId) (chooser : Chooser),
          WellRouted (Executor.choosing (.choosing observe me chooser) origin request)) ∧
      (origin = .server ∨ request.side = .client → ∃ reason, ∀ access : Access m,
        Executor.atTable access origin request = throw (.routing reason)) ∧
      (origin ≠ .server ∧ request.side = .server →
        (∀ target bug, request ≠ .attackPlayer target bug) → ∀ access : Access m,
          WellRouted (Executor.atTable access origin request))) ∧
    (∀ (access : Access m) (id target : PlayerId) (bug : BugReport),
      WellRouted (access.send (.reportBug id target bug)) ∧
      ∃ afterQuestion : Except Failure (Option Card) → ExceptT Failure m Reply,
        Executor.atTable access (.participant id) (.attackPlayer target bug) = (do
          let _ ← access.send (.reportBug id target bug)
          let answer ← ExceptT.lift (access.ask target .selectResponse).run
          afterQuestion answer) ∧
        ∀ answer, Yields (fun result => ∀ reason,
          result = .error (.routing reason) ↔ answer = .error (.routing reason))
            (afterQuestion answer).run) ∧
    ∀ (authority : Authority m) (participant : Participant m) {α : Type},
      let resolve := authority.beside participant
      (∀ (program : Program α) (notes : List Consultation),
        (program.run (authority.noted.beside participant.noted)).run.run notes =
          (fun (result, steps) =>
            (result, notes ++ steps.map fun request => ⟨request.side, request⟩)) <$>
              program.walk resolve) ∧
      (∀ result : α, (Program.done result).walk resolve = pure (.ok result, [])) ∧
      ∀ (request : Request) (rest : Queue request.Answer α),
        (Program.step request rest).walk resolve = (do
          match ← (resolve request).run with
          | .error failure => pure (.error failure, [request])
          | .ok answer =>
            let (result, steps) ← (rest.settle answer).walk resolve
            pure (result, request :: steps)) := by
  refine ⟨fun origin request => ⟨?_, ?_, ?_, ?_⟩, fun access id target bug => ?_, ?_⟩
  · intro hwrong
    by_cases horigin : origin = .server
    · have hside : request.side = .server := hwrong.resolve_left (not_not_intro horigin)
      refine ⟨request.name ++ " must be resolved by the server", fun participant => ?_⟩
      rw [Executor.choosing, if_pos horigin]
      refine run_program_of_throw ?_
      cases request <;> first | rfl | cases hside
    · exact ⟨_, fun participant => if_neg horigin⟩
  · rintro ⟨rfl, hside⟩ observe me chooser
    exact wellRouted_program (wellRouted_choosing observe me chooser Authority.nobody hside)
  · intro hwrong
    cases origin with
    | server => exact ⟨_, fun access => rfl⟩
    | participant id =>
      have hside : request.side = .client := hwrong.resolve_left nofun
      refine ⟨request.name ++ " needs a named participant on the server", fun access => ?_⟩
      refine run_program_of_throw ?_
      cases request <;> first | rfl | cases hside
  · rintro ⟨horigin, hside⟩ hattack access
    cases origin with
    | server => exact absurd rfl horigin
    | participant id =>
      exact wellRouted_program (wellRouted_atTable access id Participant.nobody hside hattack)
  · exact ⟨wellRouted_send access _, access.afterQuestion id target,
      execute_attackPlayer access id target bug, yields_afterQuestion access id target⟩
  · intro authority participant α resolve
    refine ⟨fun program notes => ?_, fun result => rfl, fun request rest => ?_⟩
    · exact StepTree.run_noted authority participant program.tree notes
    · have hsettle : rest.tree = fun answer => (rest.settle answer).tree :=
        funext fun answer => (rest.tree_settle answer).symm
      rw [Program.walk, Program.tree, hsettle, StepTree.walk]
      refine bind_congr fun answered => ?_
      cases answered <;> rfl

theorem Executor.misrouted_fails_closed_obliging :
    let authority : Authority (StateM Cues) := .ofResolver Program.obliging.resolver
    let participant : Participant (StateM Cues) := .ofResolver Program.obliging.resolver
    let resolve := authority.noted.beside participant.noted
    let walked := (((Program.attackSomebody.run resolve).run.run []).run .none).1
    walked.2 = [⟨.client, .selectPlayer⟩, ⟨.client, .selectAttack⟩,
      ⟨.server, .attackPlayer ⟨1⟩ .coreDump⟩] ∧
    (∃ reason, Executor.choosing participant .server .drawCards = throw (.routing reason)) ∧
    ∃ reason, ∀ access : Access (StateM Cues),
      Executor.atTable access (.participant ⟨0⟩) .playCard = throw (.routing reason) := by
  intro authority participant resolve walked
  obtain ⟨hrequests, -, hwalks⟩ := Executor.misrouted_fails_closed (m := StateM Cues)
  obtain ⟨hparticipant, -, -, -⟩ := hrequests .server .drawCards
  obtain ⟨-, -, hserver, -⟩ := hrequests (.participant ⟨0⟩) .playCard
  obtain ⟨reason, hrefused⟩ := hparticipant (.inr rfl)
  refine ⟨?_, ⟨reason, hrefused participant⟩, hserver (.inr rfl)⟩
  simp only [walked, resolve]
  rw [(hwalks authority participant).1]
  decide +kernel

end RoundTable
