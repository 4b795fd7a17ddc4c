import RoundTable.Proofs.Session.Tallied

/-!
# No call is lost, and none waits for ever in a circle

While nobody leaves or gives anything up and no router fails, every call that waits has one token,
and every token is that of a call that waits. The task or the end that has the token can go on, or
it waits itself: a walk for the result of a call from an end of lower rank, and whoever sends for
room at an end where the command that takes it up is about to be taken in.

## Main definitions

* `Session.Stirs`: a task can take a step, or a router can take in a command

## Main results

* `Session.Tallied.holds_iff`: the tokens that can be seen in a session are those in the account
* `Session.Tallied.stirs`: a session in which a call waits goes on
* `Session.no_call_lost`: calls that wait and tokens belong together, and somebody can go on
-/

namespace RoundTable

variable {ρ : Type} {place : LinkEnd} {call : CallId}

/-- The call of a walk that owes a result is one from an end of lower rank. -/
theorem Activity.StandsAt.below {activity : Activity ρ} {stage : CallStage}
    (h : activity.StandsAt ⟨some (place, call), stage⟩) : stage.Below place.opposite.rank := by
  cases h with
  | walk _ hstage => exact hstage

namespace Session

variable {session : Session ρ} {standing : Nat → Option Standing}
  {account : LinkEnd → Option (CallId × Token)} {id : Nat} {token : Token}

/-! ### Tokens as they can be seen -/

namespace Tallied

theorem sends_iff (h : session.Tallied standing account) :
    (∃ task, session.task? id = some task ∧ task.activity.Sends place call) ↔
      (standing id).bind Standing.unsent? = some (place, call) := by
  constructor
  · rintro ⟨task, found, hsends⟩
    obtain ⟨stands, hstanding, hstands⟩ := h.exists_standing found
    rw [hstanding]
    exact hstands.sends_iff.mp hsends
  · intro hunsent
    obtain ⟨stands, hstanding, hunsent⟩ := Option.bind_eq_some_iff.mp hunsent
    obtain ⟨task, found, hstands⟩ := h.exists_task hstanding
    exact ⟨task, found, hstands.sends_iff.mpr hunsent⟩

theorem owes_iff (h : session.Tallied standing account) :
    (∃ task, session.task? id = some task ∧ task.activity.Owes place call) ↔
      (standing id).bind Standing.debt = some (place, call) := by
  constructor
  · rintro ⟨task, found, howes⟩
    obtain ⟨stands, hstanding, hstands⟩ := h.exists_standing found
    rw [hstanding]
    exact hstands.owes_iff.mp howes
  · intro hdebt
    obtain ⟨stands, hstanding, hdebt⟩ := Option.bind_eq_some_iff.mp hdebt
    obtain ⟨task, found, hstands⟩ := h.exists_task hstanding
    exact ⟨task, found, hstands.owes_iff.mpr hdebt⟩

/-- The tokens that can be seen are those in the account. -/
theorem holds_iff (h : session.Tallied standing account) :
    session.Holds place call token ↔ account place = some (call, token) := by
  rw [← h.tally place call token]
  cases token with
  | unsent id => exact h.sends_iff
  | walked id => exact h.owes_iff
  | asked =>
    rw [Holds, Token.At]
    cases session.arrived? place.opposite with
    | none => simp
    | some command => cases command <;> simp [Command.asked?]
  | answered =>
    rw [Holds, Token.At]
    cases session.arrived? place with
    | none => simp
    | some command => cases command <;> simp [Command.answered?]

end Tallied

/-! ### Somebody can go on -/

/-- A task can take a step, or a router can take in a command. -/
def Stirs (session : Session ρ) : Prop :=
  (∃ id, (session.advance? id).isSome = true) ∨ ∃ place, (session.receive? place).isSome = true

theorem stirs_of_perform? {task : Task ρ} {effect : Effect} {goOn : effect.Answer → Activity ρ}
    (found : session.task? id = some task)
    (asks : task.activity.question? = some ⟨effect, goOn⟩)
    (hperform : (session.perform? effect).isSome = true) : session.Stirs := by
  have hcrash : effect ≠ .crash := by
    rintro rfl
    cases hperform
  refine .inl ⟨id, ?_⟩
  rw [advance?_of_question? found asks hcrash, answer?, Option.isSome_map, perform?_withoutTask,
    Option.isSome_map]
  exact hperform

/-- Who cannot send finds that something has arrived at the other end. -/
theorem arrived?_of_push? {command : Command} (h : session.push? place command = none) :
    ∃ earlier, session.arrived? place.opposite = some earlier := by
  rw [push?] at h
  split at h
  case h_1 => cases h
  case h_2 desk hdesk =>
    split at h
    case isFalse => cases h
    case isTrue =>
      split at h
      case isFalse => cases h
      case isTrue hfull =>
        rw [arrived?, hdesk]
        exact Option.isSome_iff_exists.mp hfull

namespace Tallied

theorem exists_token (h : session.Tallied standing account)
    (hlive : session.live? place = some call) : ∃ token, account place = some (call, token) := by
  cases haccount : account place with
  | none =>
    have hwaiter := h.callers place
    obtain ⟨slot, hslot, hlive⟩ := Option.bind_eq_some_iff.mp hlive
    rw [waiter?, hslot, haccount] at hwaiter
    rw [Slot.live?, show slot.waiter = none from hwaiter] at hlive
    cases hlive
  | some entry =>
    obtain ⟨other, token⟩ := entry
    cases hlive.symm.trans (live?_of_waiter? (h.callers.waiter? haccount))
    exact ⟨token, rfl⟩

/-- A task that has something to do can go on, or somebody has to make room for it first, or it
waits for the result of a call. -/
theorem stirs_or_waits (h : session.Tallied standing account) {task : Task ρ} {stands : Standing}
    (found : session.task? id = some task) (hstands : task.activity.StandsAt stands)
    (hbusy : stands ≠ ⟨none, .free⟩) :
    session.Stirs ∨ ∃ other call action token, stands.stage = .waiting other call action ∧
      account other = some (call, token) := by
  obtain ⟨effect, goOn, hquestion⟩ := hstands.idle_or_asks.resolve_left hbusy
  have hsend (place : LinkEnd) (command : Command) (heffect : effect = .send place command) :
      session.Stirs := by
    subst heffect
    cases hpush : session.push? place command with
    | some next =>
      refine stirs_of_perform? found hquestion ?_
      rw [perform?, hpush]
      rfl
    | none =>
      obtain ⟨earlier, harrived⟩ := arrived?_of_push? hpush
      exact .inr ⟨place.opposite, h.ready.receive? harrived⟩
  cases hstands.asksAt hquestion with
  | quiet hquiet =>
    refine .inl (stirs_of_perform? found hquestion ?_)
    cases effect with
    | observe | apply | applyOr | confirm | isLinked => rfl
    | _ => exact hquiet.elim
  | number | register => exact .inl (stirs_of_perform? found hquestion rfl)
  | send | conclude => exact .inl (hsend _ _ rfl)
  | @await debt place call action =>
    by_cases hlive : session.live? place = some call
    case pos =>
      obtain ⟨token, haccount⟩ := h.exists_token hlive
      exact .inr ⟨place, call, action, token, rfl, haccount⟩
    case neg => exact .inl (stirs_of_perform? found hquestion (isSome_perform?_await hlive))

/-- **A session in which a call waits goes on.** The induction is on the rank of its end: whoever
waits because of it waits for a call from an end of lower rank. -/
theorem stirs (h : session.Tallied standing account) {rank : Nat} (hrank : place.rank = rank)
    (haccount : account place = some (call, token)) : session.Stirs := by
  induction rank using Nat.strongRecOn generalizing place call token with
  | ind rank ih =>
    have htoken := (h.tally place call token).mpr haccount
    cases token with
    | asked =>
      obtain ⟨command, harrived, -⟩ := Option.bind_eq_some_iff.mp htoken
      exact .inr ⟨place.opposite, h.ready.receive? harrived⟩
    | answered =>
      obtain ⟨command, harrived, -⟩ := Option.bind_eq_some_iff.mp htoken
      exact .inr ⟨place, h.ready.receive? harrived⟩
    | unsent id =>
      obtain ⟨stands, hstanding, hunsent⟩ := Option.bind_eq_some_iff.mp htoken
      obtain ⟨task, found, hstands⟩ := h.exists_task hstanding
      have hbusy : stands ≠ ⟨none, .free⟩ := by
        rintro rfl
        cases hunsent
      rcases h.stirs_or_waits found hstands hbusy with hstirs | ⟨_, _, _, _, hstage, -⟩
      · exact hstirs
      · rw [Standing.unsent?, hstage] at hunsent
        cases hunsent
    | walked id =>
      obtain ⟨⟨debt, stage⟩, hstanding, hdebt⟩ := Option.bind_eq_some_iff.mp htoken
      obtain ⟨task, found, hstands⟩ := h.exists_task hstanding
      cases hdebt
      rcases h.stirs_or_waits found hstands nofun with hstirs | ⟨other, _, _, _, hstage, hother⟩
      · exact hstirs
      · have hbelow : stage.Below place.opposite.opposite.rank := Activity.StandsAt.below hstands
        rw [show stage = _ from hstage, LinkEnd.opposite_opposite] at hbelow
        exact ih other.rank (hrank ▸ hbelow) rfl hother

end Tallied

/-- **No call is lost, and none waits for ever in a circle.** The server of a session resolves
actions at the table, and each participant resolves them in its own way. While nobody leaves or
gives anything up, and no router has failed: whoever waits is there, and there is one token of the
call; every token is that of a call that waits, above all a result that is on its way; and as long
as somebody waits, a task can take a step or a router can take in a command. -/
theorem no_call_lost {company : Company} {table : Table} {moves : List (Move ρ)}
    (hcalm : ∀ move ∈ moves, move.IsCalm)
    (hrun : (company.session table).run? moves = some session) (hsound : ¬session.HasFailed) :
    (∀ place waiter, session.waiter? place = some waiter →
      waiter.isLive = true ∧ ∃! token, session.Holds place waiter.call token) ∧
    (∀ place call token, session.Holds place call token → session.live? place = some call) ∧
    ((∃ place, (session.waiter? place).isSome = true) → session.Stirs) := by
  obtain ⟨standing, account, h⟩ := isTallied_of_run? hcalm hrun hsound
  refine ⟨?_, ?_, ?_⟩
  · intro place waiter hwaiter
    rw [h.callers] at hwaiter
    obtain ⟨⟨call, token⟩, haccount, rfl⟩ := Option.map_eq_some_iff.mp hwaiter
    refine ⟨rfl, token, h.holds_iff.mpr haccount, ?_⟩
    intro other hother
    cases haccount.symm.trans (h.holds_iff.mp hother)
    rfl
  · intro place call token hholds
    exact live?_of_waiter? (h.callers.waiter? (h.holds_iff.mp hholds))
  · rintro ⟨place, hsome⟩
    rw [h.callers, Option.isSome_map] at hsome
    obtain ⟨⟨call, token⟩, haccount⟩ := Option.isSome_iff_exists.mp hsome
    exact h.stirs rfl haccount

/-- The first participant, who has just drawn a bug, has the server attack the second one. The
server takes the action in, reports the bug, and asks the victim for an answer. -/
def ambush : List (Move (Except Failure Reply)) :=
  [.apply (.drawCards ⟨0⟩),
    .start (.participant ⟨0⟩)
      (Routine.call (.ofParticipant ⟨0⟩) (.attackPlayer ⟨1⟩ .systemHangs)).run] ++
    List.replicate 3 (.step (.advance 0)) ++ [.step (.receive (.ofServer ⟨0⟩))] ++
    List.replicate 6 (.step (.advance 1))

/-- A session in which all routers are at work has not failed. -/
theorem not_hasFailed (hserver : session.server.isRunning = true)
    (hlinks : ∀ link ∈ session.links, link.station.isRunning = true) : ¬session.HasFailed := by
  rintro ⟨party, error, hrouter⟩
  have hrouting : session.isRouting party = true := by
    obtain ⟨station, hstation, -⟩ := Option.map_eq_some_iff.mp hrouter
    rw [isRouting, hstation]
    cases party with
    | server =>
      cases hstation
      exact hserver
    | participant id =>
      obtain ⟨link, hlink, rfl⟩ := Option.map_eq_some_iff.mp hstation
      exact hlinks link (List.mem_of_find?_eq_some hlink)
  cases hrouter.symm.trans (router?_of_isRouting hrouting)

theorem no_call_lost_ambush :
    ∃ session : Session (Except Failure Reply),
      (Company.hasty.session Gate.duel).run? ambush = some session ∧
      session.waiter? (.ofParticipant ⟨0⟩) = some ⟨⟨1⟩, true⟩ ∧
      session.waiter? (.ofServer ⟨1⟩) = some ⟨⟨1⟩, true⟩ ∧
      (∃! token, session.Holds (.ofParticipant ⟨0⟩) ⟨1⟩ token) ∧
      (∃! token, session.Holds (.ofServer ⟨1⟩) ⟨1⟩ token) ∧ session.Stirs := by
  have hcheck : (((Company.hasty.session Gate.duel).run? ambush).any fun session =>
      (session.server.isRunning && session.links.all fun link => link.station.isRunning) &&
      (session.waiter? (.ofParticipant ⟨0⟩) = some ⟨⟨1⟩, true⟩ &&
        session.waiter? (.ofServer ⟨1⟩) = some ⟨⟨1⟩, true⟩)) = true := by
    decide +kernel
  obtain ⟨session, hrun, hcheck⟩ := (Option.any_eq_true _ _).mp hcheck
  simp only [Bool.and_eq_true, List.all_eq_true, decide_eq_true_eq] at hcheck
  obtain ⟨⟨hserver, hlinks⟩, hattacker, hvictim⟩ := hcheck
  have hcalm : ∀ move ∈ ambush, move.IsCalm := by
    have hlenient := Manners.lenient_below 3
    have hcall := (hlenient.call (.ofParticipant ⟨0⟩) (.attackPlayer ⟨1⟩ .systemHangs)
      (Nat.lt_succ_self 2)).mono fun _ _ => trivial
    simp [ambush, Move.IsCalm, hcall]
  obtain ⟨hwaits, -, hstirs⟩ := no_call_lost hcalm hrun (not_hasFailed hserver hlinks)
  exact ⟨session, hrun, hattacker, hvictim, (hwaits _ _ hattacker).2, (hwaits _ _ hvictim).2,
    hstirs ⟨_, by rw [hvictim]; rfl⟩⟩

end Session

end RoundTable
