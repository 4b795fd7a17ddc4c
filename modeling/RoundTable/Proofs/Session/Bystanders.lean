import RoundTable.Proofs.Session.Arrivals
import RoundTable.Proofs.Walk.Futile

/-!
# Bystanders cannot touch the table

Whatever players ask of the server who have no say at the table comes to nothing: they are told that
it has failed, nobody is asked anything on their behalf, and the table stays as it is. So it is when
their requests are carried out one after another, and so it is in a session, where the walks of many
requests go on side by side and see each other's events.

## Main definitions

* `Exchange.IsVain`: answers of a table at which nothing happens
* `Routine.Futilely`: what may be asked for somebody who has no say
* `Session.Unmoved`: sessions at whose table nothing has happened

## Main results

* `Routine.futile_access`, `Routine.proceeds_futile`: a walk for somebody who has no say asks for
  nothing that comes to anything
* `Session.Chronicled.unmoved`: nothing happens in a session where nobody has a say
* `Session.bystanders_leave_no_trace`: one after another or side by side, all requests come to nothing
-/

namespace RoundTable

variable {state : GameState}

/-- The answer is one of a table that is in the given state and stays so. -/
def Exchange.IsVain (state : GameState) : Exchange → Prop
  | ⟨.observe, seen⟩ => seen = state
  | ⟨.apply _, answer⟩ => ∃ refusal, answer = .error refusal
  | ⟨.applyOr _ _, answer⟩ => ∃ refusal, answer = .error refusal
  | _ => True

namespace Routine

/-! ### Routines -/

/-- Nothing has come of what has been asked. -/
def InVain (state : GameState) (past : List Exchange) : Prop :=
  ∀ exchange ∈ past, exchange.IsVain state

/-- As long as nothing has come of anything, only events that are barred are sent to the table, and
nothing is sent to anybody but a failure as the result of a call. -/
def Futilely (state : GameState) (place : LinkEnd) (call : CallId) (past : List Exchange)
    (effect : Effect) : Prop :=
  InVain state past → (∀ event ∈ effect.events, state.Bars event) ∧
    ∀ other command, effect = .send other command →
      other = place ∧ ∃ reason, command = .result place.owner call (.failed reason)

variable {α : Type} {place : LinkEnd} {call : CallId} {past : List Exchange}

/-- A failure, if nothing has come of anything. -/
def FailsInVain (state : GameState) (past : List Exchange) (result : Except Failure α) : Prop :=
  InVain state past → ∃ failure, result = .error failure

/-- Where something has come of something, nothing is said. -/
theorem proceeds_of_not_inVain (hnot : ¬InVain state past) (routine : Routine (Except Failure α)) :
    Proceeds (Futilely state place call) (FailsInVain state) past routine := by
  induction routine generalizing past with
  | done result => exact .done fun hvain => absurd hvain hnot
  | ask effect next ih =>
    refine .ask (fun hvain => absurd hvain hnot) fun answer => ih answer fun hvain => hnot ?_
    exact fun exchange hmem => hvain exchange (List.mem_append_left _ hmem)

theorem not_inVain_concat {exchange : Exchange} (h : ¬exchange.IsVain state)
    (past : List Exchange) : ¬InVain state (past ++ [exchange]) :=
  fun hvain => h (hvain exchange (List.mem_append_right _ (List.mem_singleton.mpr rfl)))

/-- To look at the table, and to send it what it bars, is futile. -/
theorem futilely_of_bars {effect : Effect} (hevents : ∀ event ∈ effect.events, state.Bars event)
    (hsends : ∀ other command, effect ≠ .send other command) :
    Futilely state place call past effect :=
  fun _ => ⟨hevents, fun other command heq => absurd heq (hsends other command)⟩

theorem futilely_observe : Futilely state place call past .observe :=
  futilely_of_bars (fun _ hmem => absurd hmem List.not_mem_nil) fun _ _ heq => by cases heq

theorem futilely_apply {event : GameEvent} (hbars : state.Bars event) :
    Futilely state place call past (.apply event) := by
  refine futilely_of_bars (fun other hother => ?_) fun _ _ heq => by cases heq
  exact List.mem_singleton.mp hother ▸ hbars

theorem futilely_applyOr {preferred fallback : GameEvent} (hbars : state.Bars preferred)
    (hbars' : state.Bars fallback) :
    Futilely state place call past (.applyOr preferred fallback) := by
  refine futilely_of_bars (fun other hother => ?_) fun _ _ heq => by cases heq
  obtain rfl | hother := List.mem_cons.mp hother
  · exact hbars
  · exact List.mem_singleton.mp hother ▸ hbars'

/-- An attempt of somebody who has no say. -/
def AttemptsInVain (state : GameState) (place : LinkEnd) (call : CallId)
    (attempt : ExceptT Failure Routine α) : Prop :=
  ∀ past, Attempts (Futilely state place call) (FailsInVain state) past attempt

/-- What the server of a session does for somebody who has no say comes to nothing. -/
theorem futile_access (state : GameState) (place : LinkEnd) (call : CallId) :
    Futile access state (AttemptsInVain state place call) where
  throw failure past := attempts_throw fun _ => ⟨failure, rfl⟩
  bind h past := by
    refine Attempts.bind (Proceeds.mono (h past) fun past result hfails => ?_)
    cases result with
    | ok a =>
      refine proceeds_of_not_inVain (fun hvain => ?_) _
      obtain ⟨failure, herror⟩ := hfails hvain
      cases herror
    | error failure => exact fun _ => ⟨failure, rfl⟩
  observe h past := by
    refine attempts_observe futilely_observe fun seen => ?_
    by_cases hseen : seen = state
    · exact hseen ▸ h _
    · have hnot : ¬Exchange.IsVain state ⟨.observe, seen⟩ := hseen
      exact proceeds_of_not_inVain (not_inVain_concat hnot past) _
  send {event} hbars past := by
    refine Proceeds.ask (futilely_apply hbars) fun answer => ?_
    cases answer with
    | ok states => exact proceeds_of_not_inVain (not_inVain_concat (by rintro ⟨_, ⟨⟩⟩) past) _
    | error refusal => exact .done fun _ => ⟨.ofRefusal refusal, rfl⟩
  sendOr {preferred fallback} hbars hbars' past := by
    refine Proceeds.ask (futilely_applyOr hbars hbars') fun answer => ?_
    cases answer with
    | ok fits => exact proceeds_of_not_inVain (not_inVain_concat (by rintro ⟨_, ⟨⟩⟩) past) _
    | error refusal => exact .done fun _ => ⟨.ofRefusal refusal, rfl⟩

/-- **The walk of an action of somebody who has no say** sends a failure back, and nothing else comes
of it. -/
theorem proceeds_futile {id : PlayerId} {action : Request} (hnosay : state.HasNoSay id action)
    (call : CallId) :
    Proceeds (Futilely state (.ofServer id) call) anyEnding []
      (delegated (.atTable access) (.ofServer id) (.participant id) call action).run := by
  have hexecute := (futile_access state (.ofServer id) call).execute hnosay
  refine proceeds_delegated_of (Proceeds.mono (hexecute []) fun past result hfails => ?_)
  refine ⟨fun hvain => ⟨nofun, fun other command heq => ?_⟩, fun _ => trivial⟩
  obtain ⟨failure, rfl⟩ := hfails hvain
  cases heq
  exact ⟨rfl, failure.message, rfl⟩

end Routine

/-! ### Sessions -/

namespace Session

variable {ρ : Type} {before after : Session ρ} {chronicle : Chronicle ρ} {table : Table}
  {drawCount : Nat} {phase : Turn} {execute? : Party → Option (Executor Routine)}
  {occurrence? : Option (Occurrence ρ)}

/-- Nothing has happened at the table of a session, and nothing has come of anything. -/
structure Unmoved (drawCount : Nat) (phase : Turn) (state : GameState) (table : Table)
    (chronicle : Chronicle ρ) (session : Session ρ) : Prop where
  liesAt : session.table.LiesAt drawCount phase state
  intact : table.Intact session.table
  vain : ∀ task exchange, .answered task exchange ∈ chronicle → exchange.IsVain state

/-- Nothing comes of a question whose events are barred. -/
theorem isVain_of_perform? {effect : Effect} {answer : effect.Answer}
    (h : before.perform? effect = some (after, answer))
    (hlies : before.table.LiesAt drawCount phase state)
    (hbars : ∀ event ∈ effect.events, state.Bars event) :
    after.table.LiesAt drawCount phase state ∧ before.table.Intact after.table ∧
      Exchange.IsVain state ⟨effect, answer⟩ := by
  have hsame (htable : after.table = before.table) :
      after.table.LiesAt drawCount phase state ∧ before.table.Intact after.table := by
    rw [htable]
    exact ⟨hlies, .refl _⟩
  cases effect with
  | observe =>
    cases h
    exact ⟨hlies, .refl _, hlies.state⟩
  | apply event =>
    cases h
    obtain ⟨refusal, hresult, hrefuses, hafter⟩ :=
      hlies.apply_refused (hbars event List.mem_cons_self phase)
    exact ⟨hafter, hrefuses.intact, refusal, hresult⟩
  | applyOr preferred fallback =>
    cases h
    obtain ⟨refusal, hresult, hrefuses, hafter⟩ :=
      hlies.applyOr_refused (hbars preferred List.mem_cons_self phase)
        (hbars fallback (List.mem_cons_of_mem _ (List.mem_singleton.mpr rfl)) phase)
    exact ⟨hafter, hrefuses.intact, refusal, hresult⟩
  | _ =>
    obtain ⟨hafter, hintact⟩ := hsame (serve_perform? h)
    exact ⟨hafter, hintact, trivial⟩

theorem Unmoved.same (h : before.Unmoved drawCount phase state table chronicle)
    (htable : after.table = before.table) :
    after.Unmoved drawCount phase state table chronicle :=
  ⟨htable ▸ h.liesAt, htable ▸ h.intact, h.vain⟩

theorem Unmoved.concat (h : before.Unmoved drawCount phase state table chronicle)
    {occurrence : Occurrence ρ}
    (hvain : ∀ task exchange, occurrence = .answered task exchange → exchange.IsVain state) :
    before.Unmoved drawCount phase state table (chronicle ++ [occurrence]) := by
  refine ⟨h.liesAt, h.intact, fun task exchange hmem => ?_⟩
  obtain hmem | hmem := List.mem_append.mp hmem
  · exact h.vain task exchange hmem
  · exact hvain task exchange (List.mem_singleton.mp hmem).symm

/-- A move changes nothing as long as tasks send only events that are barred. -/
theorem Unmoved.occurs (h : before.Unmoved drawCount phase state table chronicle)
    (hoccurs : Occurs before occurrence? after)
    (hbars : ∀ task ∈ before.tasks, ∀ effect goOn,
      task.activity.question? = some ⟨effect, goOn⟩ → ∀ event ∈ effect.events, state.Bars event) :
    after.Unmoved drawCount phase state table (chronicle ++ occurrence?.toList) := by
  cases hoccurs with
  | @answered task effect goOn middle answer mem asks answers =>
    have hlies : (before.withoutTask task.id).table.LiesAt drawCount phase state := h.liesAt
    obtain ⟨hafter, hintact, hvain⟩ :=
      isVain_of_perform? answers hlies (hbars task mem effect goOn asks)
    have hconcat : before.Unmoved drawCount phase state table
        (chronicle ++ [.answered task.id ⟨effect, answer⟩]) :=
      h.concat fun _ _ heq => by cases heq; exact hvain
    exact ⟨hafter, hconcat.intact.trans hintact, hconcat.vain⟩
  | delegated => exact (h.concat fun _ _ heq => by cases heq).same (table_modifyDesk ..)
  | resulted =>
    refine (h.concat fun _ _ heq => by cases heq).same ?_
    rw [modifySlot, table_modifyDesk, taken, table_modifyDesk]
  | started => exact (h.concat fun _ _ heq => by cases heq).same rfl
  | passed passes =>
    rw [Option.toList_none, List.append_nil]
    exact h.same passes.table

/-- In a session where nobody has a say, and the server does nothing of its own accord, what a task
sends to the table is barred. -/
theorem Chronicled.bars (h : before.Chronicled table execute? chronicle)
    (hhosted : Hosted (fun _ => False) execute? chronicle)
    (hvain : ∀ task exchange, .answered task exchange ∈ chronicle → exchange.IsVain state)
    (hnosay : ∀ id origin call action walk,
      .received (.ofServer id) (.delegate origin call action) walk ∈ chronicle →
        state.HasNoSay id action)
    {task : Task ρ} (hmem : task ∈ before.tasks) {effect : Effect}
    {goOn : effect.Answer → Activity ρ} (hasks : task.activity.question? = some ⟨effect, goOn⟩) :
    ∀ event ∈ effect.events, state.Bars event := by
  obtain ⟨occurrence, hoccurrence, activity, hbegins, hgoes⟩ := h.followed.exists_begins hmem
  obtain ⟨id, origin, call, action, rfl, rfl⟩ | ⟨_, _, -, -, hnever⟩ | hspares :=
    hhosted.begins hoccurrence hbegins
  · have hproceeds := Routine.proceeds_futile (hnosay id origin call action _ hoccurrence) call
    refine (hgoes.may_walk hproceeds hasks fun exchange hexchange => ?_).1
    exact hvain task.id exchange (Chronicle.mem_history.mp hexchange)
  · exact hnever.elim
  · rw [(hspares.goes hgoes).2 effect goOn hasks]
    exact nofun

theorem Hosted.of_append {serves : Routine ρ → Prop} {more : Chronicle ρ}
    (h : Hosted serves execute? (chronicle ++ more)) : Hosted serves execute? chronicle :=
  ⟨h.server, h.participants, fun task job hmem => h.jobs task job (List.mem_append_left _ hmem)⟩

/-- **Nothing happens in a session where nobody has a say.** -/
theorem Chronicled.unmoved {moves : List (Move ρ)}
    (h : before.Chronicled table execute? chronicle)
    (hunmoved : before.Unmoved drawCount phase state table chronicle)
    (hmoves : ∀ move ∈ moves, ∀ event, move ≠ .apply event)
    (hhosted : Hosted (fun _ => False) execute? (chronicle ++ before.chronicle moves))
    (hnosay : ∀ id origin call action walk,
      .received (.ofServer id) (.delegate origin call action) walk ∈
        chronicle ++ before.chronicle moves → state.HasNoSay id action)
    (hrun : before.run? moves = some after) :
    after.Unmoved drawCount phase state table (chronicle ++ before.chronicle moves) := by
  induction moves generalizing before chronicle with
  | nil =>
    cases hrun
    rw [Session.chronicle, List.append_nil]
    exact hunmoved
  | cons move moves ih =>
    obtain ⟨middle, hmove, hrest⟩ := Option.bind_eq_some_iff.mp hrun
    have hnot := hmoves move List.mem_cons_self
    have hoccurs := occurs_of_move? h.recorded.toNumbered hmove hnot
    have hmiddle := hunmoved.occurs hoccurs fun task hmem effect goOn hasks =>
      h.bars hhosted.of_append hunmoved.vain (fun id origin call action walk hreceived =>
        hnosay id origin call action walk (List.mem_append_left _ hreceived)) hmem hasks
    rw [Session.chronicle, hmove, ← List.append_assoc] at hhosted hnosay ⊢
    exact ih (h.moved hmove hnot) hmiddle
      (fun other hmem => hmoves other (List.mem_cons_of_mem _ hmem)) hhosted hnosay hrest

/-- So it is from the start. -/
theorem unmoved_of_run? {participants : List (PlayerId × Option (Executor Routine))}
    {moves : List (Move ρ)} (hlies : table.LiesAt drawCount phase state)
    (hparticipants : ∀ participant ∈ participants, ∀ execute ∈ participant.2, execute.SparesTable)
    (hmoves : ∀ move ∈ moves, move.IsHosted fun _ => False)
    (hnosay : ∀ id origin call action walk,
      .received (.ofServer id) (.delegate origin call action) walk ∈
        (opened table (some (.atTable Routine.access)) participants).chronicle moves →
          state.HasNoSay id action)
    (hrun : (opened table (some (.atTable Routine.access)) participants).run? moves = some after) :
    after.Unmoved drawCount phase state table
      ((opened table (some (.atTable Routine.access)) participants).chronicle moves) := by
  have hstart : (opened table (some (.atTable Routine.access)) participants : Session ρ).Unmoved
      drawCount phase state table [] :=
    ⟨hlies, .refl _, fun _ _ hmem => absurd hmem List.not_mem_nil⟩
  have hnot : ∀ move ∈ moves, ∀ event, move ≠ .apply event := by
    rintro move hmem event rfl
    exact hmoves _ hmem
  have hhosted := (hosted_of_run? hparticipants hmoves hrun).2
  exact (chronicled_opened table (some (.atTable Routine.access)) participants).unmoved hstart hnot
    hhosted hnosay hrun

/-- Whatever a walk for somebody who has no say has sent is a failure. -/
theorem Chronicled.reports_failure (h : after.Chronicled table execute? chronicle)
    (hhosted : Hosted (fun _ => False) execute? chronicle)
    (hvain : ∀ task exchange, .answered task exchange ∈ chronicle → exchange.IsVain state)
    {id : PlayerId} {origin : Party} {call : CallId} {action : Request} {walk : Nat}
    (hreceived : .received (.ofServer id) (.delegate origin call action) walk ∈ chronicle)
    (hnosay : state.HasNoSay id action) {place : LinkEnd} {command : Command} {sent : Bool}
    (hsent : ⟨.send place command, sent⟩ ∈ chronicle.history walk) :
    place = .ofServer id ∧ ∃ reason, command = .result .server call (.failed reason) := by
  have hbegins : Occurrence.Begins execute?
      (.received (.ofServer id) (.delegate origin call action) walk) walk
      (.carriesOut (ρ := ρ) id call action) :=
    .walk hhosted.server
  obtain ⟨later, hgoes, -⟩ := h.traced.goes _ hreceived _ _ hbegins
  cases hgoes with
  | walk hgoes =>
    obtain ⟨earlier, hearlier, hmay⟩ :=
      (Routine.proceeds_futile hnosay call).exists_may hgoes hsent
    rw [List.nil_append] at hearlier
    have hpast : Routine.InVain state earlier := fun exchange hmem =>
      hvain walk exchange (Chronicle.mem_history.mp (hearlier.subset hmem))
    exact (hmay hpast).2 place command rfl

/-- **Bystanders cannot touch the table.** Let a table be as any errands have left it. Requests of
players who have no say there, because it is somebody else's turn and they do not answer an attack on
themselves, may be carried out one after another, as many as one likes: each of them fails, nobody is
asked anything, and phase, state and history of the table are what they were. In a session whose
server does nothing of its own accord they may be carried out side by side, while participants do
what they like but to send events to the table: if all actions that arrive at the server are of
players who have no say, then the table is what it was, and all that their walks send is that they
have failed. -/
theorem bystanders_leave_no_trace {config : TableConfig} {state : GameState} {fresh : Table}
    (hopened : Table.opened config state = .ok fresh) (errands : List Errand) :
    let table := (fresh.serveAll errands).1
    (∀ (others : PlayerId → Resolver (StateM Office)) (asked : List (PlayerId × Request))
      (requests : List (PlayerId × Request)),
      (∀ wish ∈ requests, table.state.HasNoSay wish.1 wish.2) →
      ∃ (failures : List Failure) (after : Office), failures.length = requests.length ∧
        ((Executor.atTable (Office.access others)).executeAll requests).run ⟨table, asked⟩ =
          (failures.map .error, after) ∧
        after.asked = asked ∧ table.Intact after.table) ∧
    ∀ (ρ : Type) (participants : List (PlayerId × Option (Executor Routine)))
      (moves : List (Move ρ)) (after : Session ρ),
      let opening : Session ρ := opened table (some (.atTable Routine.access)) participants
      (∀ participant ∈ participants, ∀ execute ∈ participant.2, execute.SparesTable) →
      (∀ move ∈ moves, move.IsHosted fun _ => False) →
      (∀ id origin call action walk,
        .received (.ofServer id) (.delegate origin call action) walk ∈ opening.chronicle moves →
          table.state.HasNoSay id action) →
      opening.run? moves = some after →
        table.Intact after.table ∧
        ∀ id origin call action walk,
          .received (.ofServer id) (.delegate origin call action) walk ∈ opening.chronicle moves →
          ∀ place command sent,
            ⟨.send place command, sent⟩ ∈ (opening.chronicle moves).history walk →
              place = .ofServer id ∧ ∃ reason, command = .result .server call (.failed reason) := by
  intro table
  have hlies := Table.liesAt_serveAll hopened errands
  constructor
  · intro others asked requests hnosay
    exact Office.declines_all others hnosay ⟨table, asked⟩ hlies
  · intro ρ participants moves after opening hparticipants hmoves hnosay hrun
    have hunmoved := unmoved_of_run? hlies hparticipants hmoves hnosay hrun
    obtain ⟨hchronicled, hhosted⟩ := hosted_of_run? hparticipants hmoves hrun
    refine ⟨hunmoved.intact, fun id origin call action walk hreceived place command sent hsent => ?_⟩
    exact hchronicled.reports_failure hhosted hunmoved.vain hreceived
      (hnosay id origin call action walk hreceived) hsent

/-- In the middle of the first player's attack, the second one, who takes part by hand, would like to
draw. The server takes that in, and its walk goes on to the end. -/
def intrusion : List (Move Unit) :=
  [.send (.ofParticipant ⟨1⟩) (.delegate (.participant ⟨1⟩) ⟨0⟩ .drawCards),
    .step (.receive (.ofServer ⟨1⟩)), .step (.advance 0), .step (.advance 0)]

theorem bystanders_leave_no_trace_intrusion :
    let table := (Gate.duel.serveAll Table.assault).1
    let opening : Session Unit :=
      opened table (some (.atTable Routine.access)) [(⟨0⟩, none), (⟨1⟩, none)]
    (∃ (failures : List Failure) (after : Office),
      ((Executor.atTable (Office.access fun _ _ => throw .disconnected)).executeAll
        [(⟨7⟩, .defendAttack none), (⟨1⟩, .drawCards)]).run ⟨table, []⟩ =
          (failures.map .error, after) ∧
      after.asked = [] ∧ table.Intact after.table) ∧
    ∃ after, opening.run? intrusion = some after ∧ table.Intact after.table := by
  intro table opening
  have hopened : Table.opened {} Gate.duel.state = .ok Gate.duel := rfl
  have hattack : table.state.pendingAttack = some ⟨⟨0⟩, ⟨1⟩, .systemHangs⟩ := by rfl
  have hstranger (request : Request) : table.state.HasNoSay ⟨7⟩ request := by
    refine .of_bystander (by rfl) (fun attack hpending => ?_) request
    cases hattack.symm.trans hpending
    decide
  have hvictim : table.state.HasNoSay ⟨1⟩ .drawCards := ⟨by rfl, fun _ _ _ _ => nofun⟩
  obtain ⟨hoffice, hsession⟩ := bystanders_leave_no_trace hopened Table.assault
  constructor
  · obtain ⟨failures, after, -, hafter⟩ := hoffice (fun _ _ => throw .disconnected) []
      [(⟨7⟩, .defendAttack none), (⟨1⟩, .drawCards)] fun wish hwish => by
        obtain rfl | hwish := List.mem_cons.mp hwish
        · exact hstranger _
        · cases List.mem_singleton.mp hwish
          exact hvictim
    exact ⟨failures, after, hafter⟩
  · have hcheck : (opening.run? intrusion).isSome = true ∧
        (opening.chronicle intrusion).arrivals = [⟨⟨1⟩, .drawCards, 0⟩] := by
      decide +kernel
    obtain ⟨after, hrun⟩ := Option.isSome_iff_exists.mp hcheck.1
    refine ⟨after, hrun, (hsession Unit [(⟨0⟩, none), (⟨1⟩, none)] intrusion after ?_ ?_ ?_ hrun).1⟩
    · simp
    · simp [intrusion, Move.IsHosted]
    · intro id origin call action walk hreceived
      have harrival : (⟨id, action, walk⟩ : Arrival) ∈ (opening.chronicle intrusion).arrivals :=
        Chronicle.mem_arrivals.mpr ⟨origin, call, hreceived⟩
      rw [hcheck.2] at harrival
      cases List.mem_singleton.mp harrival
      exact hvictim

end Session

end RoundTable
