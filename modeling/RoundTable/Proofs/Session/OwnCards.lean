import RoundTable.Proofs.Rules.Spending
import RoundTable.Proofs.Session.Hosted
import RoundTable.Proofs.Session.ServerSteps
import RoundTable.Proofs.Table.Linearizable

/-!
# Nobody spends the cards of others

At the table an attacker may answer an attack with a card of the victim. So it is the server that
sees to it that nobody loses a card without having named it: a walk names only cards of the player
at whose link its action has arrived, and a card with which a victim answers comes from the victim's
link. This is so in whatever order commands arrive and walks go on.

## Main definitions

* `Request.cards`: the cards that an action names
* `Chronicle.Names`: a command that has been taken in from a player's link names a card
* `Routine.MaySpend`: events that cost only cards that have been named

## Main results

* `Routine.maySpend_of_mem_events`, `Routine.attempts_driveTurn`: the server spends cards that are
  named
* `Session.spends_own_cards`: a card that leaves a hand was named over the player's own link
-/

namespace RoundTable

/-! ### Cards that are named -/

/-- The cards that an action names, to be spent by whoever it comes from. -/
def Request.cards : Request → List Card
  | attackPlayer _ bug => [.bug bug]
  | defendAttack defence => defence.toList
  | handleStumbling via => via.toList
  | discard cards => cards
  | _ => []

/-- A command that has been taken in from the link of a player names a card: an action does, or a
reply to a question of the server does. -/
inductive Chronicle.Names {ρ : Type} (chronicle : Chronicle ρ) (id : PlayerId) (card : Card) :
    Prop where
  | action {origin : Party} {call : CallId} {action : Request} {walk : Nat}
    (received : .received (.ofServer id) (.delegate origin call action) walk ∈ chronicle)
    (names : card ∈ action.cards) : Names chronicle id card
  | reply {origin : Party} {call : CallId} {value : Reply} {walk task : Nat} {question : Request}
    (asked : .answered task ⟨.send (.ofServer id) (.delegate .server call question), true⟩ ∈
      chronicle)
    (received : .received (.ofServer id) (.result origin call value) walk ∈ chronicle)
    (names : card ∈ question.chosen value) : Names chronicle id card

namespace Routine

/-- A player may lose a card: it is given that it may, or a reply of the player names it. -/
def MayLose (given : PlayerId → Card → Prop) (past : List Exchange) (id : PlayerId) (card : Card) :
    Prop :=
  given id card ∨ Told past id card

theorem MayLose.append {given : PlayerId → Card → Prop} {past : List Exchange} {id : PlayerId}
    {card : Card} (h : MayLose given past id card) (more : List Exchange) :
    MayLose given (past ++ more) id card :=
  h.imp_right fun htold => htold.append more

/-- An event costs only cards that the player may lose. -/
def MaySpend (given : PlayerId → Card → Prop) (past : List Exchange) (event : GameEvent) : Prop :=
  ∀ card ∈ event.spent, MayLose given past event.spender card

theorem licence_maySpend (given : PlayerId → Card → Prop) (origin : PlayerId) :
    Licence origin (MaySpend given) := by
  refine ⟨fun past more event h card hcard => (h card hcard).append more,
    fun past victim card htold other hother => ?_⟩
  rw [List.mem_singleton.mp hother]
  exact .inr htold

variable {given : PlayerId → Card → Prop} {past : List Exchange} {id origin : PlayerId}
  {request : Request} {α : Type}

/-- The server's steps for a player cost cards that the request names. -/
theorem maySpend_of_mem_events {event : GameEvent} (hevent : event ∈ request.events origin)
    (hcards : ∀ card ∈ request.cards, MayLose given past origin card) :
    MaySpend given past event := by
  intro card hcard
  cases request with
  | drawCards =>
    rw [List.mem_singleton.mp hevent] at hcard
    cases hcard
  | attackPlayer target bug =>
    obtain rfl | hevent := List.mem_cons.mp hevent
    · exact hcards card hcard
    · rw [List.mem_singleton.mp hevent] at hcard
      cases hcard
  | defendAttack defence =>
    obtain rfl | hevent := List.mem_cons.mp hevent
    · cases hcard
    · obtain ⟨answer, hanswer, rfl⟩ := List.mem_map.mp hevent
      rw [List.mem_singleton.mp hcard]
      exact hcards answer hanswer
  | handleStumbling via =>
    obtain rfl | hevent := List.mem_cons.mp hevent
    · exact hcards card hcard
    · rw [List.mem_singleton.mp hevent] at hcard
      cases hcard
  | discard cards =>
    rw [List.mem_singleton.mp hevent] at hcard ⊢
    exact hcards card hcard
  | _ => cases hevent

/-! ### Turns -/

/-- A question to the player who plays the turn, in a program. -/
theorem attempts_question {β : Type} {next : request.Answer → Program β}
    (hside : request.side = .client)
    (h : ∀ past answer,
      (∀ card ∈ request.chosen (request.expectation.wrap answer), Told past id card) →
        Attempts (Sends (MaySpend given)) anyEnding past ((next answer).run
          ((Authority.atTable access id).beside (.ofResolver (askParticipant id))))) :
    Attempts (Sends (MaySpend given)) anyEnding past ((request.resolved >>= next).run
      ((Authority.atTable access id).beside (.ofResolver (askParticipant id)))) := by
  have hask : (Authority.atTable access id).beside (.ofResolver (askParticipant id)) request =
      askParticipant id request := by
    cases request with
    | drawCards | attackPlayer | defendAttack | handleStumbling | discard => cases hside
    | _ => rfl
  refine Attempts.andThen (Attempts.resolved ?_)
  rw [hask]
  refine attempts_askParticipant id request (lenient_sends _) fun told answer hasked => ?_
  cases answer with
  | ok answer => exact h _ answer fun card hcard => hasked.told past hcard
  | error failure => trivial

/-- A step of the server for the player who plays the turn, in a program. -/
theorem attempts_step (request : Request) {participant : Participant Routine}
    (hside : request.side = .server)
    (hcards : ∀ card ∈ request.cards, Told past id card) :
    Attempts (Sends (MaySpend given)) anyEnding past
      (request.resolved.run ((Authority.atTable access id).beside participant)) :=
  Attempts.resolved (attempts_atTable (licence_maySpend given id) hside fun _ hevent =>
    maySpend_of_mem_events hevent fun card hcard => .inr (hcards card hcard))

/-- One program after another, if nothing has to be remembered. -/
theorem attempts_andThen {β : Type} {resolve : Resolver Routine} {program : Program α}
    {next : α → Program β}
    (h : Attempts (Sends (MaySpend given)) anyEnding past (program.run resolve))
    (hnext : ∀ past a, Attempts (Sends (MaySpend given)) anyEnding past ((next a).run resolve)) :
    Attempts (Sends (MaySpend given)) anyEnding past ((program >>= next).run resolve) := by
  refine Attempts.andThen (Proceeds.mono h fun past result _ => ?_)
  cases result with
  | ok a => exact hnext past a
  | error failure => trivial

/-- **Whoever plays a turn spends cards that the players have chosen.** -/
theorem attempts_playTurn (given : PlayerId → Card → Prop) (past : List Exchange) (id : PlayerId) :
    Attempts (Sends (MaySpend given)) anyEnding past (Program.playTurn.run
      ((Authority.atTable access id).beside (.ofResolver (askParticipant id)))) := by
  refine attempts_andThen ?_ fun past stumbling => attempts_andThen
    (attempts_step .drawCards rfl fun _ h => by cases h)
    fun past drawn => attempts_andThen ?_ fun past attack => attempts_andThen ?_
    fun past discarded => .done trivial
  · refine attempts_question rfl fun past blocked _ => ?_
    cases blocked with
    | none => exact .done trivial
    | some _ =>
      refine attempts_question rfl fun past via hvia => ?_
      exact attempts_step (.handleStumbling via) rfl hvia
  · refine attempts_question rfl fun past target _ => attempts_question rfl fun past bug hbug => ?_
    exact attempts_step (.attackPlayer target bug) rfl hbug
  · refine attempts_question rfl fun past state _ => ?_
    split
    · exact .done trivial
    · refine attempts_question rfl fun past cards hcards => ?_
      exact attempts_andThen (attempts_step (.discard cards) rfl hcards) fun _ _ => .done trivial

theorem attempts_driveTurn (given : PlayerId → Card → Prop) :
    Attempts (Sends (MaySpend given)) anyEnding [] access.driveTurn := by
  refine attempts_observe (lenient_sends _ _ _ rfl) fun state => ?_
  split
  · exact attempts_throw trivial
  · rename_i id _
    refine Attempts.bind (Proceeds.mono (attempts_playTurn given _ id) fun past result _ => ?_)
    cases result with
    | error failure => trivial
    | ok report =>
      exact .andThen_any (attempts_send_any fun _ hcard => by cases hcard) fun _ _ =>
        attempts_pure trivial

end Routine

/-! ### Sessions -/

namespace Session

variable {ρ : Type} {before after : Session ρ} {chronicle : Chronicle ρ} {table : Table}
  {execute? : Party → Option (Executor Routine)}

/-- A task of a session asks for no event that costs a player a card which the player's link has not
named. -/
theorem Chronicled.names (h : after.Chronicled table execute? chronicle) {serves : Routine ρ → Prop}
    (hhosted : Hosted serves execute? chronicle)
    (hserves : ∀ routine, serves routine → Routine.Proceeds
      (Routine.Sends (Routine.MaySpend fun _ _ => False)) Routine.anyEnding [] routine)
    {task : Task ρ} (hmem : task ∈ after.tasks) {effect : Effect}
    {goOn : effect.Answer → Activity ρ} (hasks : task.activity.question? = some ⟨effect, goOn⟩)
    {event : GameEvent} (hevent : event ∈ effect.events) {card : Card}
    (hcard : card ∈ event.spent) :
    chronicle.Names event.spender card := by
  have htold {id : PlayerId} (htold : Routine.Told (chronicle.history task.id) id card) :
      chronicle.Names id card := by
    obtain ⟨call, question, value, hsent, hawaited, hnames⟩ := htold
    obtain ⟨origin, walk, hreceived⟩ :=
      h.heard.awaited _ _ _ _ (Chronicle.mem_history.mp hawaited)
    exact .reply (Chronicle.mem_history.mp hsent) hreceived hnames
  obtain ⟨occurrence, hoccurrence, activity, hbegins, hgoes⟩ := h.followed.exists_begins hmem
  obtain ⟨id, origin, call, action, rfl, rfl⟩ | ⟨number, routine, -, rfl, hserved⟩ | hspares :=
    hhosted.begins hoccurrence hbegins
  · -- a walk spends what its action names, and what a victim has answered with
    let given (other : PlayerId) (card : Card) : Prop := other = id ∧ card ∈ action.cards
    have hspends (event : GameEvent) (hevent : event ∈ action.events id) :
        Routine.MaySpend given [] event :=
      Routine.maySpend_of_mem_events hevent fun _ hnamed => .inl ⟨rfl, hnamed⟩
    have hmay := hgoes.may_walk
      (Routine.proceeds_execute (Routine.licence_maySpend given id) hspends) hasks
    obtain ⟨hid, hnamed⟩ | hanswered := hmay event hevent card hcard
    · exact hid ▸ .action hoccurrence hnamed
    · exact htold hanswered
  · obtain hnever | hanswered :=
      hgoes.may_job (hserves routine hserved) hasks event hevent card hcard
    · cases hnever
    · exact htold hanswered
  · rw [(hspares.goes hgoes).2 effect goOn hasks] at hevent
    cases hevent

/-- What a move does to the table is the effect of an event for which a task has asked. -/
theorem Occurs.event {occurrence? : Option (Occurrence ρ)} (h : Occurs before occurrence? after)
    (hopen : before.table.IsOpen) :
    after.table.state = before.table.state ∨
      ∃ task ∈ before.tasks, ∃ effect goOn, task.activity.question? = some ⟨effect, goOn⟩ ∧
        ∃ event ∈ effect.events, after.table.state =
          before.table.state.after event before.table.config.drawCount := by
  cases h with
  | @answered task effect goOn middle answer mem asks answers =>
    have hserve := serve_perform? answers
    cases hdealing : Exchange.dealing? ⟨effect, answer⟩ with
    | none =>
      rw [hdealing] at hserve
      exact .inl (congrArg Table.state hserve)
    | some dealing =>
      rw [hdealing] at hserve
      have hserved : before.table.serve dealing.1 = (middle.table, dealing.2) := hserve
      have houtcome := Table.outcome_serve hopen dealing.1
      rw [hserved] at houtcome
      obtain ⟨event, hevent, htakes⟩ | ⟨event, refusal, hrefuses⟩ := houtcome.event
      · rw [Exchange.events_of_dealing? hdealing] at hevent
        exact .inr ⟨task, mem, effect, goOn, asks, event, hevent, htakes.state⟩
      · exact .inl hrefuses.state
  | delegated => exact .inl (congrArg Table.state (table_modifyDesk ..))
  | resulted =>
    refine .inl (congrArg Table.state ?_)
    rw [modifySlot, table_modifyDesk, taken, table_modifyDesk]
  | started => exact .inl rfl
  | passed passes => exact .inl (congrArg Table.state passes.table)

/-- **Nobody spends the cards of others.** -/
theorem spends_own_cards {config : TableConfig} {state : GameState} {fresh : Table}
    (hopened : Table.opened config state = .ok fresh) (errands : List Errand)
    {participants : List (PlayerId × Option (Executor Routine))}
    (hparticipants : ∀ participant ∈ participants, ∀ execute ∈ participant.2, execute.SparesTable)
    {moves : List (Move (Except Failure TurnReport))} {move : Move (Except Failure TurnReport)}
    (hmoves : ∀ other ∈ moves ++ [move],
      other.IsHosted fun routine => routine = Routine.access.driveTurn.run)
    {after next : Session (Except Failure TurnReport)} :
    let opening : Session (Except Failure TurnReport) :=
      opened (fresh.serveAll errands).1 (some (.atTable Routine.access)) participants
    opening.run? moves = some after → after.move? move = some next →
    ∀ (seat : Nat) (player player' : Player) (card : Card),
      after.table.state.players[seat]? = some player →
      next.table.state.players[seat]? = some player' →
      player'.cards.count card < player.cards.count card →
        (opening.chronicle moves).Names player.id card := by
  intro opening hrun hmove seat player player' card hplayer hplayer' hfewer
  obtain ⟨hchronicled, hhosted⟩ := hosted_of_run? hparticipants
    (fun move hmem => hmoves move (List.mem_append_left _ hmem)) hrun
  have hopen : after.table.IsOpen :=
    hchronicled.dealt.isOpen (Table.isOpen_serveAll (Table.isOpen_of_withEdges hopened) errands)
  have hoccurs := occurs_of_move? hchronicled.recorded.toNumbered hmove fun event heq => by
    have hmine := hmoves move (List.mem_append_right _ (List.mem_singleton.mpr rfl))
    rw [heq] at hmine
    exact hmine
  obtain hsame | ⟨task, hmem, effect, goOn, hasks, event, hevent, hstate⟩ := hoccurs.event hopen
  · rw [hsame, hplayer] at hplayer'
    cases hplayer'
    exact absurd hfewer (Nat.lt_irrefl _)
  · obtain ⟨left, hleft, -, hcards⟩ :=
      after.table.state.keepsHands_after event after.table.config.drawCount seat player hplayer
    rw [← hstate, hplayer'] at hleft
    cases hleft
    have hspent : player.id = event.spender ∧ card ∈ event.spent :=
      Decidable.byContradiction fun hnot => Nat.not_lt.mpr (hcards card hnot) hfewer
    rw [hspent.1]
    exact hchronicled.names hhosted (fun routine hroutine => hroutine ▸
      Routine.attempts_driveTurn _) hmem hasks hevent hspent.2

/-- The first player, who takes part by hand, attacks the second one. The server takes the action
in, and its walk is about to report the bug. -/
def raid : List (Move (Except Failure TurnReport)) :=
  [.send (.ofParticipant ⟨0⟩) (.delegate (.participant ⟨0⟩) ⟨1⟩ (.attackPlayer ⟨1⟩ .systemHangs)),
    .step (.receive (.ofServer ⟨0⟩))]

theorem spends_own_cards_raid :
    let opening : Session (Except Failure TurnReport) :=
      opened (Gate.duel.serveAll [.apply (.drawCards ⟨0⟩)]).1 (some (.atTable Routine.access))
        [(⟨0⟩, none), (⟨1⟩, some (.choosing (Routine.player ⟨1⟩ .first)))]
    ((opening.run? raid).bind (·.move? (.step (.advance 0)))).isSome = true ∧
      (opening.chronicle raid).Names ⟨0⟩ (.bug .systemHangs) := by
  intro opening
  let seated (session : Session (Except Failure TurnReport)) : Option (PlayerId × List Card) :=
    session.table.state.players[0]?.map fun player => (player.id, player.cards)
  have hcheck : ((opening.run? raid).any fun after =>
      (seated after = some (⟨0⟩, [.bug .systemHangs]) : Bool) &&
        (after.move? (.step (.advance 0))).any fun next =>
          seated next = some (⟨0⟩, [])) = true := by
    decide +kernel
  obtain ⟨after, hrun, hcheck⟩ := (Option.any_eq_true _ _).mp hcheck
  obtain ⟨hbefore, hcheck⟩ := (Bool.and_eq_true _ _).mp hcheck
  obtain ⟨next, hmove, hafter⟩ := (Option.any_eq_true _ _).mp hcheck
  obtain ⟨player, hplayer, heq⟩ := Option.map_eq_some_iff.mp (of_decide_eq_true hbefore)
  obtain ⟨player', hplayer', heq'⟩ := Option.map_eq_some_iff.mp (of_decide_eq_true hafter)
  obtain ⟨hid, hcards⟩ := Prod.mk.inj heq
  obtain ⟨-, hcards'⟩ := Prod.mk.inj heq'
  have hopened : Table.opened {} Gate.duel.state = .ok Gate.duel := rfl
  have hparticipants : ∀ participant ∈ [((⟨0⟩ : PlayerId), (none : Option (Executor Routine))),
      (⟨1⟩, some (.choosing (Routine.player ⟨1⟩ .first)))],
      ∀ execute ∈ participant.2, execute.SparesTable := by
    intro participant hmem execute hexecute
    obtain rfl | hmem := List.mem_cons.mp hmem
    · cases hexecute
    · rw [List.mem_singleton.mp hmem] at hexecute
      cases hexecute
      exact Routine.sparesTable_choosing ⟨1⟩ .first
  have hmoves : ∀ other ∈ raid ++ [.step (.advance 0)],
      other.IsHosted fun routine => routine = Routine.access.driveTurn.run := by
    simp [raid, Move.IsHosted]
  have hnames := spends_own_cards hopened [.apply (.drawCards ⟨0⟩)] hparticipants hmoves hrun hmove
    0 player player' (.bug .systemHangs) hplayer hplayer' (by rw [hcards, hcards']; decide)
  rw [hid] at hnames
  exact ⟨by rw [hrun, Option.bind_some, hmove]; rfl, hnames⟩

end Session

end RoundTable
