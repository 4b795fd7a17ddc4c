import RoundTable.Proofs.Session.Arrivals
import RoundTable.Proofs.Session.Followed
import RoundTable.Proofs.Session.Honest
import RoundTable.Proofs.Table.Linearizable

/-!
# The server trusts the link

A participant may say in a command that it comes from anybody. The server goes by the link at which
the command has arrived. So if the same happens in two sessions, and the participants only differ in
what they say about where their commands come from, the table and the server are in both as if the
participants had told the truth, and the participants are told the same. Whatever a walk of the
server sends to the table comes from the player at whose link its action has arrived.

## Main definitions

* `Session.course`: a session after each of some moves
* `Session.brought?`, `Session.stream`: the commands that have come to lie at an end
* `Occurrence.honest`: what happens if everybody tells the truth

## Main results

* `Session.honest_chronicle`, `Session.honest_stream`, `Session.honest_course`: if everybody tells
  the truth, the same is seen
* `Session.trusts_link`: the server goes by the link
-/

namespace RoundTable

variable {ρ : Type}

/-! ### What is seen -/

/-- What happens, if everybody tells the truth. -/
def Occurrence.honest : Occurrence ρ → Occurrence ρ
  | answered task ⟨.send place command, sent⟩ =>
    answered task ⟨.send place (place.honest command), sent⟩
  | answered task exchange => answered task exchange
  | received place command walk => received place (place.opposite.honest command) walk
  | started task job => started task job.honest

namespace Session

/-- The session, and the session after each of the moves. -/
def course (session : Session ρ) : List (Move ρ) → List (Session ρ)
  | [] => [session]
  | move :: moves =>
    session ::
      match session.move? move with
      | some next => next.course moves
      | none => []

/-- The command that has come to lie at an end where none was lying before. -/
def brought? (before after : Session ρ) (place : LinkEnd) : Option Command :=
  if ((before.desk? place).bind Desk.inbound).isSome then none
  else (after.desk? place).bind Desk.inbound

/-- The commands that come to lie at an end, in order. -/
def stream (place : LinkEnd) (session : Session ρ) : List (Move ρ) → List Command
  | [] => []
  | move :: moves =>
    match session.move? move with
    | some next => (brought? session next place).toList ++ next.stream place moves
    | none => []

/-! ### If everybody tells the truth -/

theorem honest_course (session : Session ρ) (moves : List (Move ρ)) :
    session.honest.course (moves.map Move.honest) = (session.course moves).map Session.honest := by
  induction moves generalizing session with
  | nil => rfl
  | cons move moves ih =>
    rw [List.map_cons, course, honest_move?, course, List.map_cons]
    cases session.move? move with
    | none => rfl
    | some next => exact congrArg _ (ih next)

theorem inbound_honest (session : Session ρ) (place : LinkEnd) :
    (session.honest.desk? place).bind Desk.inbound =
      ((session.desk? place).bind Desk.inbound).map place.opposite.honest := by
  rw [desk?_honest]
  cases session.desk? place <;> rfl

theorem honest_stream (session : Session ρ) (moves : List (Move ρ)) (place : LinkEnd) :
    session.honest.stream place (moves.map Move.honest) =
      (session.stream place moves).map place.opposite.honest := by
  induction moves generalizing session with
  | nil => rfl
  | cons move moves ih =>
    rw [List.map_cons, stream, honest_move?, stream]
    cases session.move? move with
    | none => rfl
    | some next =>
      have hbrought : brought? session.honest next.honest place =
          (brought? session next place).map place.opposite.honest := by
        rw [brought?, brought?, inbound_honest, inbound_honest, Option.isSome_map]
        split <;> rfl
      simp only [Option.map_some, hbrought, ih, List.map_append, Option.toList_map]

theorem honest_answered (session : Session ρ) (id : Nat) (effect : Effect)
    (h : ∀ place command, effect ≠ .send place command) :
    (session.honest.perform? effect).bind (fun r => some (.answered id ⟨effect, r.2⟩)) =
      ((session.perform? effect).bind fun r =>
        some (Occurrence.answered id ⟨effect, r.2⟩ : Occurrence ρ)).map Occurrence.honest := by
  rw [honest_perform? session h]
  cases session.perform? effect with
  | none => rfl
  | some r =>
    cases effect with
    | send place command => exact absurd rfl (h place command)
    | _ => rfl

theorem honest_answered_send (session : Session ρ) (id : Nat) (place : LinkEnd)
    (command : Command) :
    (session.honest.push? place (place.honest command)).bind (fun r =>
        some (.answered id ⟨.send place (place.honest command), r.2⟩)) =
      ((session.push? place command).bind fun r =>
        some (Occurrence.answered id ⟨.send place command, r.2⟩ : Occurrence ρ)).map
          Occurrence.honest := by
  rw [honest_push?]
  cases session.push? place command <;> rfl

theorem honest_occurrence? (session : Session ρ) (move : Move ρ) :
    session.honest.occurrence? move.honest = (session.occurrence? move).map Occurrence.honest := by
  cases move with
  | step label =>
    cases label with
    | advance id =>
      show session.honest.occurrence? (.step (.advance id)) = _
      rw [occurrence?, occurrence?, task?_honest]
      cases session.task? id with
      | none => rfl
      | some task =>
        obtain ⟨number, activity, pending⟩ := task
        rcases activity with ⟨router, _ | ⟨effect, next⟩⟩ | ⟨number, holder, _ | ⟨effect, next⟩⟩
        case walk.done | job.done => rfl
        all_goals
          have hother := honest_answered session id effect
          cases effect with
          | send place command => exact honest_answered_send session id place command
          | _ => exact hother (by simp)
    | receive place =>
      show session.honest.occurrence? (.step (.receive place)) = _
      rw [occurrence?, occurrence?, desk?_honest]
      cases session.desk? place with
      | none => rfl
      | some desk =>
        obtain ⟨slot, inbound, isListening⟩ := desk
        cases inbound <;> rfl
    | _ => rfl
  | _ => rfl

theorem honest_chronicle (session : Session ρ) (moves : List (Move ρ)) :
    session.honest.chronicle (moves.map Move.honest) =
      (session.chronicle moves).map Occurrence.honest := by
  induction moves generalizing session with
  | nil => rfl
  | cons move moves ih =>
    rw [List.map_cons, chronicle, honest_move?, honest_occurrence?, chronicle, List.map_append]
    cases session.move? move with
    | none => simp [Option.toList_map]
    | some next => simp [Option.toList_map, ih]

/-! ### The link is trusted -/

section

variable {session session' after : Session ρ} {moves moves' : List (Move ρ)}

/-- What does not depend on where commands are said to come from is the same all the way. -/
theorem map_course_eq {α : Type} {look : Session ρ → α}
    (hlook : ∀ session : Session ρ, look session.honest = look session)
    (hsession : session'.honest = session.honest)
    (hmoves : moves'.map Move.honest = moves.map Move.honest) :
    (session'.course moves').map look = (session.course moves).map look := by
  have hcourse := honest_course session' moves'
  rw [hsession, hmoves, honest_course] at hcourse
  have hmap := congrArg (List.map look) hcourse
  simp only [List.map_map, Function.comp_def, hlook] at hmap
  exact hmap.symm

theorem exists_run?_eq (hsession : session'.honest = session.honest)
    (hmoves : moves'.map Move.honest = moves.map Move.honest)
    (hrun : session.run? moves = some after) :
    ∃ after', session'.run? moves' = some after' ∧ after'.honest = after.honest := by
  have hhonest := honest_run? session' moves'
  rw [hsession, hmoves, honest_run?, hrun] at hhonest
  obtain ⟨after', hrun', heq⟩ := Option.map_eq_some_iff.mp hhonest.symm
  exact ⟨after', hrun', heq⟩

end

/-- The walk of an action speaks for the player at whose link the action has arrived. -/
theorem Followed.origin_eq {after : Session ρ} {chronicle : Chronicle ρ}
    {execute? : Party → Option (Executor Routine)} (h : after.Followed execute? chronicle)
    (hserver : execute? .server = some (.atTable Routine.access)) {id : PlayerId} {origin : Party}
    {call : CallId} {action : Request} {walk : Nat}
    (hreceived : .received (.ofServer id) (.delegate origin call action) walk ∈ chronicle)
    {exchange : Exchange} (hanswered : .answered walk exchange ∈ chronicle) :
    ∀ event ∈ exchange.effect.events, event.origin = id := by
  obtain ⟨later, hgoes, -⟩ := h.traced.goes _ hreceived walk _ (.walk hserver)
  cases hgoes with
  | walk hgoes =>
    obtain ⟨_, hspeaks⟩ := (Routine.proceeds_execute (Routine.licence_origin id)
      fun _ => Request.origin_of_mem_events).may_of_mem hgoes (Chronicle.mem_history.mpr hanswered)
    exact hspeaks

/-- **The server trusts the link.** If the same happens in two sessions, and the participants only
differ in what they say about where their commands come from, then what arrives at the server only
differs in that. So participants are sent the same, and all the way the table, the results of calls
and the ends of jobs are the same, as is all that is recorded but for who is said to have sent what
participants send; and the server's router comes to the same end. Whatever is sent to the table
because of an action comes from the player at whose link the action has arrived. -/
theorem trusts_link {table : Table}
    {participants participants' : List (PlayerId × Option (Executor Routine))}
    {moves moves' : List (Move ρ)} {after : Session ρ}
    (hparticipants : participants'.map (Prod.map id (Option.map Executor.honest)) =
      participants.map (Prod.map id (Option.map Executor.honest)))
    (hmoves : moves'.map Move.honest = moves.map Move.honest)
    (hrun : (opened table (some (.atTable Routine.access)) participants).run? moves =
      some after) :
    let session : Session ρ := opened table (some (.atTable Routine.access)) participants
    let session' : Session ρ := opened table (some (.atTable Routine.access)) participants'
    (∃ after', session'.run? moves' = some after' ∧
      (∀ id, (session'.stream (.ofServer id) moves').map (Command.saidBy (.participant id)) =
        (session.stream (.ofServer id) moves).map (Command.saidBy (.participant id))) ∧
      (∀ id, session'.stream (.ofParticipant id) moves' =
        session.stream (.ofParticipant id) moves) ∧
      (session'.course moves').map Session.table = (session.course moves).map Session.table ∧
      (∀ place, (session'.course moves').map (Session.slot? · place) =
        (session.course moves).map (Session.slot? · place)) ∧
      (session'.course moves').map Session.ends = (session.course moves).map Session.ends ∧
      (session'.chronicle moves').map Occurrence.honest =
        (session.chronicle moves).map Occurrence.honest ∧
      after'.router? .server = after.router? .server) ∧
    ∀ id origin call action walk,
      .received (.ofServer id) (.delegate origin call action) walk ∈ session.chronicle moves →
      ∀ exchange, .answered walk exchange ∈ session.chronicle moves →
        ∀ event ∈ exchange.effect.events, event.origin = id := by
  intro session session'
  have hsession : session'.honest = session.honest := by
    rw [honest_opened, honest_opened, hparticipants]
  have hstream (place : LinkEnd) : (session'.stream place moves').map place.opposite.honest =
      (session.stream place moves).map place.opposite.honest := by
    rw [← honest_stream, ← honest_stream, hsession, hmoves]
  have hslot (place : LinkEnd) (session : Session ρ) :
      session.honest.slot? place = session.slot? place := by
    rw [slot?, desk?_honest, Option.map_map]
    rfl
  obtain ⟨after', hrun', hafter⟩ := exists_run?_eq hsession hmoves hrun
  refine ⟨⟨after', hrun', fun id => hstream (.ofServer id), fun id => ?_,
    map_course_eq (fun _ => rfl) hsession hmoves,
    fun place => map_course_eq (hslot place) hsession hmoves,
    map_course_eq (fun _ => rfl) hsession hmoves, ?_, ?_⟩, ?_⟩
  · have hsame := hstream (.ofParticipant id)
    have hspeaks : LinkEnd.honest (LinkEnd.ofParticipant id).opposite = fun command => command :=
      rfl
    rwa [hspeaks, List.map_id', List.map_id'] at hsame
  · rw [← honest_chronicle, ← honest_chronicle, hsession, hmoves]
  · have hrouter := congrArg (fun session : Session ρ => session.server.router) hafter
    exact congrArg some hrouter
  · intro id origin call action walk hreceived exchange hanswered
    exact (followed_of_run? hrun).origin_eq rfl hreceived hanswered

/-- The first player wants to draw cards, and says to be somebody. -/
def impersonation (liar : Party) : List (Move Unit) :=
  [.send (.ofParticipant ⟨0⟩) (.delegate liar ⟨1⟩ .drawCards),
    .step (.receive (.ofServer ⟨0⟩))] ++ List.replicate 3 (.step (.advance 0)) ++
    [.step (.join 0)]

theorem trusts_link_impersonation :
    let session : Session Unit :=
      opened Gate.duel (some (.atTable Routine.access)) [(⟨0⟩, none), (⟨1⟩, none)]
    let moves := impersonation (.participant ⟨0⟩)
    let moves' := impersonation (.participant ⟨1⟩)
    (∃ after', session.run? moves' = some after') ∧
      session.stream (.ofParticipant ⟨0⟩) moves' = session.stream (.ofParticipant ⟨0⟩) moves ∧
      (session.course moves').map Session.table = (session.course moves).map Session.table ∧
      ∀ exchange, .answered 0 exchange ∈ session.chronicle moves →
        ∀ event ∈ exchange.effect.events, event.origin = ⟨0⟩ := by
  intro session moves moves'
  have hsome : (session.run? moves).isSome = true := by decide +kernel
  obtain ⟨after, hrun⟩ := Option.isSome_iff_exists.mp hsome
  have harrivals : (session.chronicle moves).arrivals = [⟨⟨0⟩, .drawCards, 0⟩] := by
    decide +kernel
  obtain ⟨origin, call, hreceived⟩ := Chronicle.mem_arrivals.mp
    (harrivals ▸ List.mem_singleton_self _)
  have hmoves : moves'.map Move.honest = moves.map Move.honest := rfl
  have hparticipants := Eq.refl ([(⟨0⟩, none), (⟨1⟩, none)].map
    (Prod.map (id : PlayerId → PlayerId) (Option.map Executor.honest)))
  obtain ⟨⟨after', hrun', -, hstream, htable, -⟩, horigin⟩ :=
    trusts_link hparticipants hmoves hrun
  exact ⟨⟨after', hrun'⟩, hstream ⟨0⟩, htable, horigin _ _ _ _ _ hreceived⟩

end Session

end RoundTable
