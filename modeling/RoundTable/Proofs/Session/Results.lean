import RoundTable.Proofs.Session.Ledger
import RoundTable.Proofs.Table.Linearizable

/-!
# A result completes the call that it answers

Participants may send what they like and when they like, callers may give up, and parties may leave.
Still a call of the server returns with nothing but a result that has arrived on its own link, with
its own number, after it has registered; all other results are dropped.

## Main definitions

* `Activity.IsHost`: walks and jobs, as hosts of routines

## Main results

* `Session.told_opened`: when a session is opened, no story has begun
* `Session.slot?_of_receive?`: what a result that arrives can do to slots
* `Session.advance?_overlapping`, `Session.advance?_unlinked`: calls that are refused
* `Session.result_completes_own_call`: all of this in every course of events
-/

namespace RoundTable

/-- A kind of walk or job: it asks what its routine asks. -/
def Activity.IsHost {ρ α : Type} (host : Routine α → Activity ρ) : Prop :=
  ∀ (effect : Effect) (next : effect.Answer → Routine α),
    (host (Interaction.ask effect next)).question? = some ⟨effect, fun answer => host (next answer)⟩

theorem Activity.isHost_walk {ρ : Type} (router : Party) :
    IsHost (walk router : _ → Activity ρ) :=
  fun _ _ => rfl

theorem Activity.isHost_job {ρ : Type} (number : Nat) (holder : Party) :
    IsHost (job number holder : _ → Activity ρ) :=
  fun _ _ => rfl

namespace Session

variable {ρ α : Type} {session next : Session ρ} {place : LinkEnd} {call : CallId}

/-! ### The beginning -/

/-- When a session is opened, no story has begun. -/
theorem told_opened {party : Party} {table : Table} {server : Option (Executor Routine)}
    {participants : List (PlayerId × Option (Executor Routine))}
    (hserver : ∀ execute ∈ server, Routine.OrderlyExecutor (.ofParty party) anyFailure execute)
    (hparticipants : ∀ participant ∈ participants, ∀ execute ∈ participant.2,
      Routine.OrderlyExecutor (.ofParty party) anyFailure execute)
    (hparty : ((opened table server participants : Session ρ).station? party).isSome = true) :
    (opened table server participants : Session ρ).Told party [] 1 := by
  have hexecute (execute : Option (Executor Routine))
      (h : ∀ execute' ∈ execute, Routine.OrderlyExecutor (.ofParty party) anyFailure execute') :
      Routine.OrderlyExecutor (.ofParty party) anyFailure (Station.opened execute).execute := by
    cases execute with
    | none => exact Routine.orderly_execute_crashing trivial
    | some execute => exact h execute rfl
  refine ⟨⟨?_, fun _ _ => rfl, fun call => ?_, ?_, ?_⟩, .nil⟩
  · obtain ⟨station, hstation⟩ := Option.isSome_iff_exists.mp hparty
    obtain ⟨execute, rfl, -⟩ := station?_opened hstation
    rw [nextCall?, hstation]
    rfl
  · cases party with
    | server => exact ⟨.ofServer ⟨0⟩, .unit, rfl, List.nil_prefix⟩
    | participant id => exact ⟨.ofParticipant id, .unit, rfl, List.nil_prefix⟩
  · intro place slot _ hslot
    obtain ⟨desk, hdesk, rfl⟩ := Option.map_eq_some_iff.mp hslot
    rw [desk?_opened hdesk]
    exact ⟨fun waiter h => absurd h (Option.not_mem_none waiter),
      fun _ h => absurd h List.not_mem_nil⟩
  · intro other execute hother
    obtain ⟨station, hstation, rfl⟩ := Option.map_eq_some_iff.mp hother
    obtain ⟨_, rfl, rfl | ⟨participant, hmem, rfl⟩⟩ := station?_opened hstation
    · exact hexecute _ hserver
    · exact hexecute participant.2 (hparticipants participant hmem)

/-! ### Results that arrive -/

/-- A result that arrives is put to the slot of that end and to no other. -/
theorem slot?_of_receive? {desk : Desk} (hdesk : session.desk? place = some desk) {origin : Party}
    {value : Reply} (harrived : desk.inbound = some (.result origin call value))
    (h : session.receive? place = some next) (other : LinkEnd) :
    next.slot? other =
      if other = place then some (desk.slot.deliver call value).1 else session.slot? other := by
  obtain ⟨station, -, h⟩ := Option.bind_eq_some_iff.mp h
  simp only [hdesk, harrived, Option.bind_eq_bind, Option.bind_some] at h
  split at h
  case isFalse => cases h
  case isTrue =>
    cases h
    rw [dispatch, slot?_modifySlot, ← taken, slot?_taken]
    split
    case isTrue heq =>
      subst heq
      rw [slot?, hdesk]
      rfl
    case isFalse => rfl

end Session

namespace Slot

variable {slot : Slot} {call : CallId}

/-- A result is handed to the call that waits for it. -/
theorem deliver_of_live? (h : slot.live? = some call) (value : Reply) :
    (slot.deliver call value).1 = ⟨none, slot.handed ++ [(call, value)]⟩ := by
  obtain ⟨waiter, hfilter, rfl⟩ := Option.map_eq_some_iff.mp h
  obtain ⟨hwaiter, hlive⟩ := Option.filter_eq_some_iff.mp hfilter
  simp [deliver, hwaiter, hlive]

/-- All other results are dropped: a call that waits goes on to wait. -/
theorem deliver_of_live?_ne (h : slot.live? ≠ some call) (value : Reply) :
    (slot.deliver call value).1.handed = slot.handed ∧
      (slot.live?.isSome = true → (slot.deliver call value).1 = slot) := by
  refine ⟨(Loses.deliver h value).handed, fun hlive => ?_⟩
  obtain ⟨other, hother⟩ := Option.isSome_iff_exists.mp hlive
  obtain ⟨waiter, hfilter, rfl⟩ := Option.map_eq_some_iff.mp hother
  obtain ⟨hwaiter, -⟩ := Option.filter_eq_some_iff.mp hfilter
  have hne : waiter.call ≠ call := fun heq => h (heq ▸ hother)
  simp [deliver, hwaiter, hne]

end Slot

namespace Session

variable {ρ α : Type} {session : Session ρ} {host : Routine α → Activity ρ} {id : Nat}
  {pending : Option (LinkEnd × CallId)} {goOn : Except Failure Reply → Routine α}

/-! ### Calls that are refused -/

/-- A call to a participant with whom there is no link is refused, and nothing else happens. -/
theorem advance?_unlinked (hhost : Activity.IsHost host) {target : PlayerId} {action : Request}
    (htask : session.task? id =
      some ⟨id, host (Interaction.bind (Routine.callParticipant target action).run goOn), pending⟩)
    (hlink : session.link? target = none) :
    session.advance? id = some ((session.withoutTask id).queueTask
      ⟨id, host (goOn (.error (.routing ("no session link for participant " ++ toString target)))),
        pending⟩) := by
  have hlink : (session.withoutTask id).link? target = none := hlink
  rw [advance?_of_question? htask (hhost _ _) nofun]
  simp only [answer?, perform?, hlink]
  rfl

/-- A call takes a number first, and nothing else happens. -/
theorem advance?_number (hhost : Activity.IsHost host) {place : LinkEnd} {action : Request}
    (htask : session.task? id =
      some ⟨id, host (Interaction.bind (Routine.call place action).run goOn), pending⟩) :
    ∃ call, session.advance? id = some (((session.withoutTask id).modifyStation place.owner
      fun station => { station with nextCall := station.nextCall + 1 }).queueTask
        ⟨id, host (Interaction.bind (Routine.callFrom place action call).run goOn), pending⟩) := by
  refine ⟨⟨(((session.withoutTask id).station? place.owner).map Station.nextCall).getD 0⟩, ?_⟩
  rw [advance?_of_question? htask (hhost _ _) nofun]
  rfl

/-- If another call waits then, it is refused, and nothing else happens. -/
theorem advance?_overlapping (hhost : Activity.IsHost host) {place : LinkEnd} {action : Request}
    {call other : CallId}
    (htask : session.task? id =
      some ⟨id, host (Interaction.bind (Routine.callFrom place action call).run goOn), pending⟩)
    {slot : Slot} (hslot : session.slot? place = some slot) (hlive : slot.live? = some other) :
    session.advance? id = some ((session.withoutTask id).queueTask
      ⟨id, host (goOn (.error (.routing ("call " ++ toString call ++ " overlaps outstanding call " ++
        toString other)))), pending⟩) := by
  obtain ⟨desk, hdesk, rfl⟩ := Option.map_eq_some_iff.mp hslot
  rw [advance?_of_question? htask (hhost _ _) nofun]
  simp only [answer?, perform?, register, desk?_withoutTask, hdesk, Slot.register, hlive]
  rfl

/-! ### Every course of events -/

/-- **A result completes the call that it answers, and no other.** Let a session be opened, let the
routines that are started, and what executors do, use the server's slots and numbers only in calls,
and let anything happen after that: jobs are started and given up, commands of whatever kind are
sent by hand from any end, parties leave, and all steps fall in any order. Then

* the story of a call of the server is that it registers at an end of the server, that a result with
  its number that arrives at that end is delivered to it, and that it returns with that result; the
  story may break off, but if the call returns, it is whole;
* a result that arrives changes at most the slot of that end; it is handed to the call of its number
  if that call waits there, and otherwise a call that waits goes on to wait;
* no number waits at two ends of the server;
* a call to a participant without a link is refused, and a call that finds another one waiting is
  refused as soon as it has taken a number; neither of them changes anything else.

Numbers are natural numbers here; so the calls of a session are fewer than there are numbers. -/
theorem result_completes_own_call {table : Table} {server : Option (Executor Routine)}
    {participants : List (PlayerId × Option (Executor Routine))}
    (hserver : ∀ execute ∈ server, Routine.OrderlyExecutor (.ofParty .server) anyFailure execute)
    (hparticipants : ∀ participant ∈ participants, ∀ execute ∈ participant.2,
      Routine.OrderlyExecutor (.ofParty .server) anyFailure execute)
    {moves : List (Move ρ)} (hmoves : ∀ move ∈ moves, move.IsOrderly .server)
    (hrun : (opened table server participants).run? moves = some session) :
    let log := (opened table server participants).log moves
    (∀ call, ∃ id value, story .server log call <+: wholeStory (.ofServer id) call value) ∧
    (∀ id call value, .returned (.ofServer id) call value ∈ log →
      story .server log call = wholeStory (.ofServer id) call value) ∧
    (∀ place desk origin call value next, session.desk? place = some desk →
      desk.inbound = some (.result origin call value) → session.receive? place = some next →
        (∀ other, other ≠ place → next.slot? other = session.slot? other) ∧
        (desk.slot.live? = some call →
          next.slot? place = some ⟨none, desk.slot.handed ++ [(call, value)]⟩) ∧
        (desk.slot.live? ≠ some call → ∃ slot, next.slot? place = some slot ∧
          slot.handed = desk.slot.handed ∧ (desk.slot.live?.isSome = true → slot = desk.slot))) ∧
    (∀ id id' slot slot' call, session.slot? (.ofServer id) = some slot →
      session.slot? (.ofServer id') = some slot' → slot.live? = some call →
        slot'.live? = some call → id = id') ∧
    ∀ (α : Type) (host : Routine α → Activity ρ), Activity.IsHost host →
      ∀ id target action goOn pending,
        (session.task? id = some
            ⟨id, host (Interaction.bind (Routine.callParticipant target action).run goOn), pending⟩ →
          session.link? target = none →
          session.advance? id = some ((session.withoutTask id).queueTask ⟨id,
            host (goOn (.error (.routing
              ("no session link for participant " ++ toString target)))), pending⟩)) ∧
        (session.task? id = some ⟨id,
            host (Interaction.bind (Routine.call (.ofServer target) action).run goOn), pending⟩ →
          ∃ call, session.advance? id = some (((session.withoutTask id).modifyStation .server
            fun station => { station with nextCall := station.nextCall + 1 }).queueTask ⟨id,
              host (Interaction.bind (Routine.callFrom (.ofServer target) action call).run goOn),
              pending⟩)) ∧
        ∀ call other slot, session.task? id = some ⟨id,
            host (Interaction.bind (Routine.callFrom (.ofServer target) action call).run goOn),
            pending⟩ →
          session.slot? (.ofServer target) = some slot → slot.live? = some other →
          session.advance? id = some ((session.withoutTask id).queueTask ⟨id,
            host (goOn (.error (.routing ("call " ++ toString call ++
              " overlaps outstanding call " ++ toString other)))), pending⟩) := by
  intro log
  obtain ⟨last, htold⟩ := (told_opened hserver hparticipants rfl).run? hmoves hrun
  have hledger : session.Ledger .server log last := htold.ledger
  refine ⟨?_, ?_, ?_, ?_, ?_⟩
  · intro call
    obtain ⟨place, value, howner, hwhole⟩ := hledger.whole call
    cases place with
    | ofServer id => exact ⟨id, value, hwhole⟩
    | ofParticipant id => cases howner
  · intro id call value hreturned
    obtain ⟨place, other, howner, hwhole⟩ := hledger.whole call
    exact story_of_returned hreturned rfl hwhole
  · intro place desk origin call value next hdesk harrived hreceive
    have hslot := slot?_of_receive? hdesk harrived hreceive
    refine ⟨fun other hne => ?_, fun hlive => ?_, fun hlive => ?_⟩
    · rw [hslot, if_neg hne]
    · rw [hslot, if_pos rfl, Slot.deliver_of_live? hlive]
    · refine ⟨_, (hslot place).trans (if_pos rfl), ?_⟩
      exact Slot.deliver_of_live?_ne hlive value
  · intro id id' slot slot' call hslot hslot' hlive hlive'
    have hstory := (hledger.slots _ slot rfl hslot).story_of_live? hlive
    have hstory' := (hledger.slots _ slot' rfl hslot').story_of_live? hlive'
    cases hstory.symm.trans hstory'
    rfl
  · intro α host hhost id target action goOn pending
    refine ⟨fun htask hlink => advance?_unlinked hhost htask hlink,
      fun htask => advance?_number hhost htask, ?_⟩
    exact fun call other slot htask hslot hlive => advance?_overlapping hhost htask hslot hlive

/-- The server asks the second player, who answers by hand: with a wrong number first, then as it
should be, and then once more. -/
def interview : List (Move (Except Failure Reply)) :=
  let answer (call : CallId) (value : Reply) : List (Move (Except Failure Reply)) :=
    [.send (.ofParticipant ⟨1⟩) (.result .server call value), .step (.receive (.ofServer ⟨1⟩))]
  [.start .server (Routine.callParticipant ⟨1⟩ .selectResponse).run] ++
    List.replicate 4 (.step (.advance 0)) ++ [.take (.ofParticipant ⟨1⟩)] ++
    answer ⟨9⟩ .unit ++ answer ⟨1⟩ (.optionalCard none) ++ answer ⟨1⟩ .unit ++
    [.step (.advance 0)]

theorem result_completes_own_call_interview :
    let session : Session (Except Failure Reply) :=
      opened Gate.duel (some (.atTable Routine.access)) [(⟨1⟩, none)]
    (session.run? interview).isSome = true ∧
      story .server (session.log interview) ⟨1⟩ =
        wholeStory (.ofServer ⟨1⟩) ⟨1⟩ (.optionalCard none) := by
  intro session
  have hlenient := Manners.lenient_ofParty .server
  have hsome : (session.run? interview).isSome = true := by decide +kernel
  obtain ⟨last, hrun⟩ := Option.isSome_iff_exists.mp hsome
  have hserver : ∀ execute ∈ some (Executor.atTable Routine.access),
      Routine.OrderlyExecutor (.ofParty .server) anyFailure execute := by
    rintro _ ⟨⟩
    exact Routine.orderly_execute_atTable hlenient fun _ => trivial
  have hparticipants : ∀ participant ∈ [((⟨1⟩ : PlayerId), (none : Option (Executor Routine)))],
      ∀ execute ∈ participant.2, Routine.OrderlyExecutor (.ofParty .server) anyFailure execute := by
    intro participant hmem
    rw [List.mem_singleton.mp hmem]
    nofun
  have hmoves : ∀ move ∈ interview, move.IsOrderly .server := by
    have hstart := (Routine.orderly_callParticipant hlenient ⟨1⟩ trivial .selectResponse).mono
      fun _ _ => trivial
    simp [interview, Move.IsOrderly, hstart]
  have hreturned : .returned (.ofServer ⟨1⟩) ⟨1⟩ (.optionalCard none) ∈ session.log interview := by
    decide +kernel
  have hstory :=
    (result_completes_own_call hserver hparticipants hmoves hrun).2.1 ⟨1⟩ ⟨1⟩ _ hreturned
  exact ⟨hsome, hstory⟩

end Session

end RoundTable
