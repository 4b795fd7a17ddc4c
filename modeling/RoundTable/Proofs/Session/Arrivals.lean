import RoundTable.Proofs.Session.Hosted
import RoundTable.Proofs.Session.ServerSteps

/-!
# Actions that have arrived, and what has come of them

When the server of a session is the host, all that is done at the table is done by walks of actions
that have arrived from players, and each walk speaks for the player from whom its action has come.
A walk that is not there any more has sent back what has come of its action, unless the server's
router has been cut short.

## Main definitions

* `Arrival`, `Chronicle.arrivals`: actions that have arrived from players
* `Chronicle.reply?`: what a walk has sent back

## Main results

* `Session.Chronicled.dealer`: who has had something done at the table
* `Session.Chronicled.walked`: what a walk has sent back, and what it has done before that
-/

namespace RoundTable

variable {ρ : Type}

/-- An action that has arrived from a player, and the walk that carries it out. -/
structure Arrival where
  /-- The player. -/
  player : PlayerId
  /-- The action. -/
  action : Request
  /-- The number of the walk. -/
  walk : Nat
  deriving DecidableEq

/-- The action that arrives from a player. -/
def Occurrence.arrival? : Occurrence ρ → Option Arrival
  | received (.ofServer id) (.delegate _ _ action) walk => some ⟨id, action, walk⟩
  | _ => none

/-- What is sent back with a question. -/
def Exchange.reply? : Exchange → Option Reply
  | ⟨.send _ (.result _ _ value), _⟩ => some value
  | _ => none

namespace Chronicle

/-- The actions that have arrived from players. -/
def arrivals (chronicle : Chronicle ρ) : List Arrival := chronicle.filterMap Occurrence.arrival?

/-- What a walk has sent back, which is the last thing that it does. -/
def reply? (chronicle : Chronicle ρ) (walk : Nat) : Option Reply :=
  (chronicle.history walk).getLast?.bind Exchange.reply?

variable {chronicle : Chronicle ρ}

theorem mem_arrivals {arrival : Arrival} :
    arrival ∈ chronicle.arrivals ↔
      ∃ origin call, .received (.ofServer arrival.player) (.delegate origin call arrival.action)
        arrival.walk ∈ chronicle := by
  rw [arrivals, List.mem_filterMap]
  constructor
  · rintro ⟨occurrence, hmem, harrival⟩
    unfold Occurrence.arrival? at harrival
    split at harrival
    case h_1 =>
      cases harrival
      exact ⟨_, _, hmem⟩
    case h_2 => cases harrival
  · rintro ⟨origin, call, hmem⟩
    exact ⟨_, hmem, rfl⟩

theorem mem_dealings {dealing : Dealing} :
    dealing ∈ chronicle.dealings ↔ ∃ exchange, .answered dealing.task exchange ∈ chronicle ∧
      exchange.dealing? = some (dealing.errand, dealing.result) := by
  rw [dealings, List.mem_filterMap]
  constructor
  · rintro ⟨occurrence, hmem, hdealing⟩
    cases occurrence with
    | answered task exchange =>
      obtain ⟨_, hexchange, rfl⟩ := Option.map_eq_some_iff.mp hdealing
      exact ⟨exchange, hmem, hexchange⟩
    | _ => cases hdealing
  · rintro ⟨exchange, hmem, hexchange⟩
    exact ⟨_, hmem, by rw [Occurrence.dealing?, hexchange]; rfl⟩

/-- The walks have different numbers. -/
theorem nodup_walks (h : chronicle.begun.Nodup) : (chronicle.arrivals.map Arrival.walk).Nodup := by
  have hbegun {occurrence : Occurrence ρ} {walk : Nat}
      (hwalk : occurrence.arrival?.map Arrival.walk = some walk) :
      occurrence.begun? = some walk := by
    obtain ⟨arrival, harrival, rfl⟩ := Option.map_eq_some_iff.mp hwalk
    unfold Occurrence.arrival? at harrival
    split at harrival
    case h_1 =>
      cases harrival
      rfl
    case h_2 => cases harrival
  rw [begun, List.Nodup, List.pairwise_filterMap] at h
  rw [arrivals, List.map_filterMap, List.Nodup, List.pairwise_filterMap]
  exact h.imp fun hdiffer walk hwalk walk' hwalk' =>
    hdiffer walk (hbegun hwalk) walk' (hbegun hwalk')

end Chronicle

/-! ### Who speaks -/

/-- The server's steps for a player send events that come from the player. -/
theorem Request.origin_of_mem_events {origin : PlayerId} {request : Request} {event : GameEvent}
    (h : event ∈ request.events origin) : event.origin = origin := by
  cases request with
  | drawCards | attackPlayer | handleStumbling | discard =>
    simp only [events, List.mem_cons, List.not_mem_nil, or_false] at h
    rcases h with rfl | rfl <;> rfl
  | defendAttack defence =>
    obtain rfl | hevent := List.mem_cons.mp h
    · rfl
    · obtain ⟨card, -, rfl⟩ := List.mem_map.mp hevent
      rfl
  | _ => cases h

theorem Routine.licence_origin (origin : PlayerId) :
    Licence origin fun _ event => event.origin = origin :=
  ⟨fun _ _ _ h => h, fun _ _ _ _ => rfl⟩

namespace Session

variable {after : Session ρ} {chronicle : Chronicle ρ} {table : Table}
  {execute? : Party → Option (Executor Routine)} {serves : Routine ρ → Prop}

/-- **Who has had something done at the table**: a walk of an action that has arrived from a player,
who has spoken for that player. -/
theorem Chronicled.dealer (h : after.Chronicled table execute? chronicle)
    (hhosted : Hosted serves execute? chronicle)
    (hserves : ∀ routine, serves routine → routine.SparesTable) {dealing : Dealing}
    (hmem : dealing ∈ chronicle.dealings) :
    ∃ arrival ∈ chronicle.arrivals, arrival.walk = dealing.task ∧
      ∀ event ∈ dealing.errand.events, event.origin = arrival.player := by
  obtain ⟨exchange, hanswered, hdealing⟩ := Chronicle.mem_dealings.mp hmem
  have hevents : dealing.errand.events = exchange.effect.events :=
    Exchange.events_of_dealing? hdealing
  have hhistory := Chronicle.mem_history.mpr hanswered
  obtain ⟨occurrence, hoccurrence, hbegun⟩ :=
    List.mem_filterMap.mp (h.recorded.answered _ _ hanswered)
  obtain ⟨activity, hbegins⟩ := h.traced.begins occurrence hoccurrence dealing.task hbegun
  obtain ⟨later, hgoes, -⟩ := h.traced.goes occurrence hoccurrence _ _ hbegins
  have hspares (hspares : activity.SparesTable) : dealing.errand.events = [] :=
    hevents.trans ((hspares.goes hgoes).1 exchange hhistory)
  have hsome : dealing.errand.events ≠ [] := by cases dealing.errand <;> exact List.cons_ne_nil _ _
  obtain ⟨id, origin, call, action, rfl, rfl⟩ | ⟨number, routine, -, rfl, hserved⟩ | hquiet :=
    hhosted.begins hoccurrence hbegins
  · refine ⟨⟨id, action, dealing.task⟩, Chronicle.mem_arrivals.mpr ⟨origin, call, hoccurrence⟩,
      rfl, ?_⟩
    cases hgoes with
    | walk hgoes =>
      obtain ⟨_, hspeaks⟩ := (Routine.proceeds_execute (Routine.licence_origin id)
        fun _ => Request.origin_of_mem_events).may_of_mem hgoes hhistory
      rw [hevents]
      exact hspeaks
  · exact absurd (hspares (hserves routine hserved)) hsome
  · exact absurd (hspares hquiet) hsome

/-- **What a walk has sent back, and what it has done before that**, if the walk is not there any
more and the server's router has not been cut short. -/
theorem Chronicled.walked (h : after.Chronicled table execute? chronicle)
    (hhosted : Hosted serves execute? chronicle) {arrival : Arrival}
    (hmem : arrival ∈ chronicle.arrivals) (hdone : ∀ task ∈ after.tasks, task.id ≠ arrival.walk)
    (hwilling : after.IsWilling .server)
    {post : List Exchange → Except Failure arrival.action.Answer → Prop}
    (hpost : Routine.Attempts (fun _ _ => True) post []
      ((Authority.atTable Routine.access arrival.player).beside Participant.nobody
        arrival.action)) :
    ∃ past result, post past result ∧
      (∀ failure, result = .error failure → failure.isFatal = false) ∧
      (chronicle.dealings.filter fun dealing => dealing.task = arrival.walk).map Dealing.pair =
        past.filterMap Exchange.dealing? ∧
      chronicle.reply? arrival.walk =
        some (delivered (result.map arrival.action.expectation.wrap)) := by
  obtain ⟨origin, call, hreceived⟩ := Chronicle.mem_arrivals.mp hmem
  have hbegins : Occurrence.Begins execute? (.received (.ofServer arrival.player)
      (.delegate origin call arrival.action) arrival.walk : Occurrence ρ) arrival.walk
        (.carriesOut arrival.player call arrival.action) := .walk hhosted.server
  obtain ⟨task, htask, hid⟩ | ⟨later, hgoes, result, rfl, hfatal⟩ | hcut :=
    h.traced.ends _ hreceived _ _ _ hbegins
  · exact absurd hid (hdone task htask)
  · have hwalk : Routine.Proceeds (fun _ _ => True) (fun history ended =>
        ∃ past result sent, post past result ∧ ended = Routine.walkEnded
          (result.map arrival.action.expectation.wrap) sent ∧
          history = past ++ [⟨.send (.ofServer arrival.player) (.result .server call
            (delivered (result.map arrival.action.expectation.wrap))), sent⟩]) []
        (Routine.delegated (.atTable Routine.access) (.ofServer arrival.player)
          (.participant arrival.player) call arrival.action).run := by
      refine Routine.proceeds_delegated (fun _ _ => trivial) (Routine.Attempts.program ?_)
      exact hpost.mono fun past result hresult sent => ⟨past, result, sent, hresult, rfl, rfl⟩
    obtain ⟨past, result', sent, hresult, hended, hhistory⟩ := (hwalk.goes hgoes).holds_done
    rw [List.nil_append] at hhistory
    refine ⟨past, result', hresult, ?_, ?_, ?_⟩
    · rintro failure rfl
      by_contra hnot
      have hend : result = .error failure := by
        rw [hended, Except.map, Routine.walkEnded, (Bool.not_eq_false _).mp hnot, if_pos rfl]
      exact hnot (hfatal failure hend)
    · rw [Chronicle.filter_dealings, hhistory, List.filterMap_append]
      exact List.append_nil _
    · rw [Chronicle.reply?, hhistory, List.getLast?_concat]
      rfl
  · exact absurd hwilling hcut

end Session

end RoundTable
