import RoundTable.Proofs.Session.Ledger
import RoundTable.Proofs.Session.Postures

/-!
# Routers that hang up release who waits

A router that finds that the other side of a link has hung up sends away who waits there. The other
side does not listen any more, so nobody begins to wait there after that; and a router that stops
because there is nothing left to do has hung up everywhere.

## Main definitions

* `Activity.awaited?`: the call whose result is asked for
* `Session.live?`: the call that waits at an end
* `Session.Released`: nobody waits where nothing will arrive any more

## Main results

* `Session.live?_of_perform?`: only a call that registers begins to wait
* `Session.Released.run?`: nobody waits in vain for a router that has hung up
-/

namespace RoundTable

variable {ρ : Type} {party : Party} {place : LinkEnd} {call : CallId}

/-! ### Waiting -/

/-- The call whose result a walk or a job asks for. -/
def Activity.awaited? (activity : Activity ρ) : Option (LinkEnd × CallId) :=
  match activity.question? with
  | some ⟨.await place call, _⟩ => some (place, call)
  | _ => none

theorem Activity.question?_of_awaited? {activity : Activity ρ}
    (h : activity.awaited? = some (place, call)) :
    ∃ goOn, activity.question? = some ⟨.await place call, goOn⟩ := by
  rw [awaited?] at h
  split at h
  case h_1 goOn hquestion =>
    cases h
    exact ⟨goOn, hquestion⟩
  case h_2 => cases h

theorem Activity.Stands.stage_of_awaited? {activity : Activity ρ} {stage : CallStage}
    (h : activity.Stands party stage) (hawaited : activity.awaited? = some (place, call))
    (howner : place.owner = party) : ∃ action, stage = .waiting place call action := by
  obtain ⟨goOn, hquestion⟩ := Activity.question?_of_awaited? hawaited
  cases h.asks hquestion with
  | spare hspares _ => exact absurd howner hspares
  | await _ => exact ⟨_, rfl⟩

theorem Slot.Loses.live? {before after : Slot} (h : before.Loses after)
    (hlive : after.live? = some call) : before.live? = some call := by
  obtain ⟨waiter, hfilter, rfl⟩ := Option.map_eq_some_iff.mp hlive
  obtain ⟨hwaiter, hislive⟩ := Option.filter_eq_some_iff.mp hfilter
  obtain ⟨earlier, hearlier, hcall, hwas⟩ := h.waiter waiter hwaiter
  rw [Slot.live?, hearlier, Option.filter_some_pos (hwas hislive), Option.map_some, hcall]

theorem Slot.live?_deliver {slot : Slot} {other : CallId} {value : Reply}
    (h : (slot.deliver call value).1.live? = some other) : slot.live? = some other := by
  rw [Slot.deliver] at h
  split at h
  · exact h
  · split at h
    · split at h <;> cases h
    · exact h

namespace Session

variable {before middle after session : Session ρ} {log : List Incident} {next : Nat}

/-- The call that waits at an end. -/
def live? (session : Session ρ) (place : LinkEnd) : Option CallId :=
  (session.slot? place).bind Slot.live?

theorem isSome_perform?_await (h : session.live? place ≠ some call) :
    (session.perform? (.await place call)).isSome = true := by
  rw [perform?]
  cases hdesk : session.desk? place with
  | none => rfl
  | some desk =>
    have hlive : desk.slot.live? ≠ some call := by
      rwa [live?, slot?, hdesk] at h
    simp only [Option.isSome_map, Slot.answer?]
    split
    · rfl
    · rw [if_neg hlive]
      rfl

theorem live?_of_slot? {after : Session ρ} (h : after.slot? place = before.slot? place) :
    after.live? place = before.live? place := by
  rw [live?, h]
  rfl

theorem Loses.live? {why : SessionError → Prop} (h : Loses why before after)
    (hlive : after.live? place = some call) : before.live? place = some call := by
  obtain ⟨slot, hslot, hlive⟩ := Option.bind_eq_some_iff.mp hlive
  obtain ⟨desk, hdesk, rfl⟩ := Option.map_eq_some_iff.mp hslot
  obtain ⟨earlier, hearlier, hloses⟩ := h.exists_desk hdesk
  rw [Session.live?, slot?, hearlier]
  exact hloses.slot.live? hlive

/-- Only a call that registers begins to wait. -/
theorem live?_of_perform? {effect : Effect} {answer : effect.Answer}
    (h : before.perform? effect = some (after, answer)) (hlive : after.live? place = some call) :
    before.live? place = some call ∨ effect = .register place call := by
  cases effect with
  | observe | apply | applyOr | confirm | isLinked =>
    cases h
    cases place <;> exact .inl hlive
  | number other =>
    cases h
    rw [live?, slot?, desk?_modifyStation] at hlive
    exact .inl hlive
  | cancel other call' =>
    cases h
    have hloses : Loses (fun _ => True) before
        (before.modifySlot other fun slot => slot.cancel call') :=
      loses_modifySlot fun slot => .cancel slot call'
    exact .inl (hloses.live? hlive)
  | crash => cases h
  | send other command =>
    obtain rfl | rfl := eq_of_push? h
    · exact .inl hlive
    · refine .inl ((live?_of_slot? ?_).symm.trans hlive)
      exact slot?_modifyDesk before _ place fun _ => rfl
  | await other call' =>
    rw [perform?] at h
    split at h
    · cases h
      exact .inl hlive
    · obtain ⟨answer, -, heq⟩ := Option.map_eq_some_iff.mp h
      cases heq
      exact .inl hlive
  | register other call' =>
    obtain ⟨failure, rfl, rfl⟩ | ⟨rfl, slot, hslot, -, rfl⟩ := register_cases h
    · exact .inl hlive
    · rw [live?, slot?_modifySlot] at hlive
      split at hlive
      case isFalse => exact .inl hlive
      case isTrue heq =>
        subst heq
        rw [hslot] at hlive
        cases hlive
        exact .inr rfl

/-! ### Routers that find nobody at the other side -/

/-- Nobody waits at an end of the party where nothing will arrive any more, unless the party's
router was cut short. -/
def Released (party : Party) (session : Session ρ) : Prop :=
  session.IsWilling party → ∀ place, place.owner = party → session.listens place = false →
    ∀ task ∈ session.tasks, ∀ call, task.activity.awaited? = some (place, call) →
      session.live? place ≠ some call

/-- Nobody has listened before either, or the router of the end has just hung up. -/
theorem Composed.deaf_before (h : before.Composed) (hreposed : Reposed before after)
    (hwilling : after.IsWilling place.owner) (hdeaf : after.listens place = false) :
    (before.IsWilling place.owner ∧ before.listens place = false) ∨
      after = before.hungUp place := by
  cases hreposed with
  | same hsame =>
    rw [hsame.listens] at hdeaf
    exact .inl ⟨hsame.isWilling.mp hwilling, hdeaf⟩
  | @hungUp other routing absent =>
    rw [listens_hungUp] at hdeaf
    split at hdeaf
    case isTrue heq => exact .inr (by rw [heq])
    case isFalse =>
      refine .inl ⟨?_, hdeaf⟩
      rwa [IsWilling, router?, hungUp, station?_modifyDesk] at hwilling
  | @stopped party routing deaf =>
    rw [listens_modifyStation] at hdeaf
    refine .inl ⟨?_, hdeaf⟩
    rw [IsWilling, router?_modifyStation] at hwilling
    split at hwilling
    case isTrue howner => exact .inl (howner ▸ router?_of_isRouting routing)
    case isFalse => exact hwilling
  | @shut after party hshuts hcut =>
    by_cases howner : place.owner = party
    · have hstopped := hcut.not_isWilling (howner ▸ hwilling)
      rw [← howner] at hstopped
      exact .inl ⟨.inr hstopped, h.stopped place hstopped⟩
    · rw [hshuts.listens, if_neg howner] at hdeaf
      rw [IsWilling, hshuts.router _ howner] at hwilling
      exact .inl ⟨hwilling, hdeaf⟩

theorem live?_hungUp (session : Session ρ) (place : LinkEnd) :
    (session.hungUp place).live? place = none := by
  rw [live?, slot?, hungUp, desk?_modifyDesk, if_pos rfl]
  cases session.desk? place <;> rfl

/-- A task that goes on does not wait at an end where nobody listens at the other side. -/
theorem not_awaited_of_asks {stage : CallStage} {effect : Effect}
    {goOn : effect.Answer → Activity ρ}
    (hasks : Routine.Asks (.ofParty party) (Activity.Stands party) stage effect goOn)
    {answer : effect.Answer} (hperform : before.perform? effect = some (after, answer))
    (howner : place.owner = party) (hdeaf : before.listens place.opposite = false) :
    (goOn answer).awaited? ≠ some (place, call) := by
  intro hawaited
  have hstage {stage : CallStage} (hstands : (goOn answer).Stands party stage) :
      ∃ action, stage = .waiting place call action := hstands.stage_of_awaited? hawaited howner
  cases hasks with
  | spare _ hnext => obtain ⟨_, heq⟩ := hstage (hnext answer); cases heq
  | number _ hnext => obtain ⟨_, heq⟩ := hstage (hnext answer); cases heq
  | register hok herror =>
    cases answer with
    | ok => obtain ⟨_, heq⟩ := hstage hok; cases heq
    | error failure => obtain ⟨_, heq⟩ := hstage (herror failure trivial); cases heq
  | send hsent hunsent =>
    cases answer with
    | false => obtain ⟨_, heq⟩ := hstage hunsent; cases heq
    | true =>
      obtain ⟨_, heq⟩ := hstage hsent
      cases heq
      rw [perform?, push?] at hperform
      rw [listens] at hdeaf
      cases hdesk : before.desk? place.opposite with
      | none => rw [hdesk] at hperform; cases hperform
      | some desk =>
        rw [hdesk, Option.any_some] at hdeaf
        simp [hdesk, hdeaf] at hperform
  | await hreply => obtain ⟨_, heq⟩ := hstage (hreply answer trivial); cases heq
  | cancel hnext => obtain ⟨_, heq⟩ := hstage (hnext trivial); cases heq

theorem Released.moved (h : before.Released party) (hcomposed : before.Composed)
    (htold : before.Told party log next) {move : Move ρ}
    (hmove : before.move? move = some after) (horderly : move.IsOrderly party) :
    after.Released party := by
  intro hwillingAfter place howner hdeafAfter task hmem call hawaited hlive
  subst howner
  obtain ⟨hwilling, hdeaf⟩ | rfl :=
    hcomposed.deaf_before (reposed_of_move? hmove) hwillingAfter hdeafAfter
  case inr => cases (live?_hungUp before place).symm.trans hlive
  -- whoever waits now, waits for a call that has been waiting already
  have hold (hmem : task ∈ before.tasks) : before.live? place ≠ some call :=
    h hwilling place rfl hdeaf task hmem call hawaited
  have hfree (hstands : task.activity.Stands place.owner .free) : False := by
    obtain ⟨action, heq⟩ := hstands.stage_of_awaited? hawaited rfl
    cases heq
  have hmoved := moved_of_move? hmove
  generalize before.incident? move = incident at hmoved
  cases hmoved with
  | @answered _ asking effect goOn middle answer mem asks answers =>
    obtain ⟨stage, hstands, hstage, htasks⟩ := htold.tasks.take mem
    have hasks := hstands.asks asks
    obtain hother | heq := List.mem_append.mp hmem
    case inr =>
      rw [List.mem_singleton.mp heq] at hawaited
      refine not_awaited_of_asks hasks answers rfl ?_ hawaited
      rw [(SamePosture.withoutTask before asking.id).listens]
      exact hcomposed.deaf place hwilling hdeaf
    case inl =>
      rw [(keeps_perform? answers).1] at hother
      have hbefore : before.live? place ≠ some call := hold (List.mem_filter.mp hother).1
      rw [live?_of_slot? (congrArg (Option.map Desk.slot) (desk?_queueTask _ _ place))] at hlive
      obtain hlive | rfl := live?_of_perform? answers hlive
      · refine hbefore ?_
        rwa [live?_of_slot? (congrArg (Option.map Desk.slot) (desk?_withoutTask _ _ place))]
          at hlive
      · -- nobody else waits for a call that registers just now
        obtain ⟨staged, hstaged, -, hfits⟩ := htasks
        obtain ⟨pair, hpair, rfl⟩ := List.mem_map.mp (hstaged ▸ hother : task ∈ staged.map Prod.fst)
        obtain ⟨hwaits, -, hbesides⟩ := hfits pair hpair
        obtain ⟨action, heq⟩ := hwaits.stage_of_awaited? hawaited rfl
        cases hasks with
        | spare hspares _ => exact hspares rfl
        | register hok herror => exact hbesides call (by rw [heq]; rfl) rfl
  | @ended _ other number holder result mem done =>
    refine hold (List.mem_filter.mp hmem).1 ?_
    rwa [live?_of_slot? (congrArg (Option.map Desk.slot) (desk?_endJob _ _ _ place)),
      live?_of_slot? (congrArg (Option.map Desk.slot) (desk?_withoutTask _ _ place))] at hlive
  | @joined _ other router result mem done =>
    have hloses := (loses_withoutTask _ before other.id).trans (loses_join _ router result)
    exact hold (hloses.tasks.subset hmem) (hloses.live? hlive)
  | @delegated other station desk origin call' action hstation hdesk arrived =>
    rw [live?_of_slot? (congrArg (Option.map Desk.slot) (desk?_spawn _ _ place)),
      live?_of_slot? (slot?_taken before other place)] at hlive
    obtain hmem | heq := List.mem_append.mp hmem
    · exact hold (tasks_modifyDesk before other _ ▸ hmem) hlive
    · have hexecute := htold.ledger.executes other.owner station.execute (congrArg _ hstation)
      rw [List.mem_singleton.mp heq] at hfree
      refine hfree ?_
      exact (Routine.stands_delegated trivial (fun _ _ => trivial) hexecute _).mono
        fun _ _ => trivial
  | @resulted other desk origin call' value hdesk arrived =>
    have htasks : ((before.taken other).modifySlot other fun slot =>
        (slot.deliver call' value).1).tasks = before.tasks :=
      (tasks_modifyDesk _ other _).trans (tasks_modifyDesk before other _)
    refine hold (htasks ▸ hmem) ?_
    rw [live?, slot?_modifySlot, slot?_taken] at hlive
    split at hlive
    case isFalse => exact hlive
    case isTrue =>
      obtain ⟨slot, hslot, hlive⟩ := Option.bind_eq_some_iff.mp hlive
      obtain ⟨earlier, hearlier, rfl⟩ := Option.map_eq_some_iff.mp hslot
      rw [live?, hearlier]
      exact Slot.live?_deliver hlive
  | @started holder routine =>
    obtain hmem | heq := List.mem_append.mp hmem
    · refine hold hmem ?_
      cases place <;> exact hlive
    · rw [List.mem_singleton.mp heq] at hfree
      exact hfree horderly
  | @pushed other command after sent hpush =>
    have hperform : before.perform? (.send other command) = some (after, sent) := hpush
    rw [(keeps_perform? hperform).1] at hmem
    obtain hlive | heq := live?_of_perform? hperform hlive
    · exact hold hmem hlive
    · cases heq
  | @applied event =>
    refine hold hmem ?_
    cases place <;> exact hlive
  | lost hloses => exact hold (hloses.tasks.subset hmem) (hloses.live? hlive)

theorem Released.run? {moves : List (Move ρ)} (h : before.Released party)
    (hcomposed : before.Composed) (htold : before.Told party log next)
    (horderly : ∀ move ∈ moves, move.IsOrderly party) (hrun : before.run? moves = some after) :
    after.Released party := by
  refine (kept_of_run? (fun session => session.Released party ∧ session.Composed ∧
    ∃ log next, session.Told party log next) (fun move hmem {_ _} h hmove => ?_)
    ⟨h, hcomposed, log, next, htold⟩ hrun).1
  obtain ⟨hreleased, hcomposed, log, next, htold⟩ := h
  have hmine := horderly move hmem
  obtain ⟨next, hafter⟩ := htold.moved (moved_of_move? hmove) hmine
  exact ⟨hreleased.moved hcomposed htold hmove hmine,
    hcomposed.reposed (reposed_of_move? hmove), _, next, hafter⟩

end Session

end RoundTable
