import RoundTable.Proofs.Session.Parties
import RoundTable.Proofs.Session.Undisturbed

/-!
# Answers at once

What server and participants do in a session comes to the same as a computation on tables in which
whoever is asked answers at once. The computation is put together like the routines, by the same
authorities and participants; only that a call is not a matter of commands but of what the other
side would do, and a failure of the other side is known by its message.

## Main definitions

* `remotely`: what is known of a failure of the other side
* `Company.access`, `Company.onServer`, `Company.onParticipant`: who resolves steps at once
* `Company.Follows`: a routine that may fail comes to the same as a computation on tables

## Main results

* `Company.follows_onServer`, `Company.follows_onParticipant`: so do the parties of a session
* `Company.Follows.ask`: a call comes to what the other side comes to
* `Company.Follows.run`: walks come to the same if the steps do
-/

namespace RoundTable

variable {α β : Type} {company : Company} {level : Nat}

/-! ### Computations on tables -/

/-- A failure of the other side is known by its message. -/
def remotely (computation : ExceptT Failure (StateM Table) α) : ExceptT Failure (StateM Table) α :=
  computation.adapt fun failure => .remote failure.message

namespace Company

/-- The participant who makes choices, given the table. -/
def player (id : PlayerId) (chooser : Chooser) : Participant (StateM Table) :=
  .choosing (return (← get).state) id chooser

/-- What one can do at a table when whoever is asked answers at once. -/
def access (company : Company) : Access (StateM Table) where
  observe := return (← get).state
  apply event := modifyGet fun table => (table.apply event).swap
  applyOr preferred fallback := modifyGet fun table => (table.applyOr preferred fallback).swap
  ask id request :=
    match company.chooser? id with
    | some chooser => remotely (Authority.nobody.beside (player id chooser) request)
    | none => throw (.routing ("no session link for participant " ++ toString id))

/-- What comes of a step of the server that a participant asks for. -/
def askServer (company : Company) (id : PlayerId) : Resolver (StateM Table) := fun request =>
  remotely ((Authority.atTable company.access id).beside .nobody request)

/-- Who resolves the steps of a program that the server walks for a player. -/
def onServer (company : Company) (id : PlayerId) : Resolver (StateM Table) :=
  (Authority.atTable company.access id).beside (.ofResolver (company.access.ask id))

/-- Who resolves the steps of a program that a participant walks. -/
def onParticipant (company : Company) (id : PlayerId) (chooser : Chooser) :
    Resolver (StateM Table) :=
  (Authority.ofResolver (company.askServer id)).beside (player id chooser)

/-! ### Routines that come to the same -/

/-- A routine comes to the same as a computation on tables. -/
def Mirrors (company : Company) (level : Nat) (routine : Routine α) (computation : StateM Table α) :
    Prop :=
  ∀ table, company.Does level routine table none (computation.run table).1 (computation.run table).2

/-- A routine that may fail comes to the same as a computation on tables. Somebody may be doomed
only where it fails and nobody else waits. -/
def Follows (company : Company) (level : Nat) (routine : ExceptT Failure Routine α)
    (computation : ExceptT Failure (StateM Table) α) : Prop :=
  ∀ table, ∃ doomed,
    company.Does level routine.run table doomed (computation.run.run table).1
      (computation.run.run table).2 ∧
    (doomed ≠ none → 2 < level ∧ ∃ failure, (computation.run.run table).1 = .error failure)

namespace Follows

variable {routine : ExceptT Failure Routine α} {computation : ExceptT Failure (StateM Table) α}

theorem pure (company : Company) (level : Nat) (a : α) :
    company.Follows level (Pure.pure a) (Pure.pure a) :=
  fun table => ⟨none, Does.done company level table (Except.ok a), fun h => absurd rfl h⟩

theorem throw (company : Company) (level : Nat) (failure : Failure) :
    company.Follows level (MonadExcept.throw failure : ExceptT Failure Routine α)
      (MonadExcept.throw failure) :=
  fun table => ⟨none, Does.done company level table (Except.error failure), fun h => absurd rfl h⟩

/-- One routine after another. -/
theorem bind {next : α → ExceptT Failure Routine β} {next' : α → ExceptT Failure (StateM Table) β}
    (h : company.Follows level routine computation)
    (hnext : ∀ a, company.Follows level (next a) (next' a)) :
    company.Follows level (routine >>= next) (computation >>= next') := by
  intro table
  rw [Routine.run_bind]
  obtain ⟨doomed, hdoes, hdoomed⟩ := h table
  generalize hrun : computation.run.run table = outcome at hdoes hdoomed
  obtain ⟨result, middle⟩ := outcome
  cases result with
  | error failure =>
    rw [run_bind_error hrun]
    exact ⟨doomed, hdoes.bind_done rfl, fun hne => ⟨(hdoomed hne).1, failure, rfl⟩⟩
  | ok a =>
    rw [run_bind_ok hrun]
    obtain ⟨doomed', hdoes', hdoomed'⟩ := hnext a middle
    have hnone : doomed = none := by
      refine Classical.byContradiction fun hne => ?_
      obtain ⟨-, failure, heq⟩ := hdoomed hne
      cases heq
    subst hnone
    exact ⟨doomed', hdoes.bind hdoes', hdoomed'⟩

/-- A routine that may fail after one that does not. -/
theorem lift {first : Routine α} {first' : StateM Table α}
    {next : α → ExceptT Failure Routine β} {next' : α → ExceptT Failure (StateM Table) β}
    (h : company.Mirrors level first first')
    (hnext : ∀ a, company.Follows level (next a) (next' a)) :
    company.Follows level (ExceptT.lift first >>= next) (ExceptT.lift first' >>= next') := by
  intro table
  obtain ⟨doomed, hdoes, hdoomed⟩ := hnext (first'.run table).1 (first'.run table).2
  have hrun : (ExceptT.lift first >>= next).run =
      Interaction.bind first fun a => (next a).run := by
    rw [Routine.run_bind]
    exact Interaction.bind_assoc first _ _
  refine ⟨doomed, ?_, hdoomed⟩
  rw [hrun]
  exact (h table).bind hdoes

/-- A failure is dealt with, where it cannot doom anybody. -/
theorem tryCatch {handle : Failure → ExceptT Failure Routine α}
    {handle' : Failure → ExceptT Failure (StateM Table) α}
    (h : company.Follows level routine computation) (hlevel : level ≤ 2)
    (hhandle : ∀ failure, company.Follows level (handle failure) (handle' failure)) :
    company.Follows level (MonadExcept.tryCatch routine handle)
      (MonadExcept.tryCatch computation handle') := by
  intro table
  obtain ⟨next, hnext, hok, herror⟩ : ∃ next : Except Failure α → Routine (Except Failure α),
      (MonadExcept.tryCatch routine handle).run = Interaction.bind routine.run next ∧
      (∀ a, next (.ok a) = Interaction.done (.ok a)) ∧
      ∀ failure, next (.error failure) = (handle failure).run :=
    ⟨_, rfl, fun _ => rfl, fun _ => rfl⟩
  rw [hnext]
  obtain ⟨doomed, hdoes, hdoomed⟩ := h table
  have hnone : doomed = none := by
    refine Classical.byContradiction fun hne => ?_
    exact absurd (hdoomed hne).1 (Nat.not_lt.mpr hlevel)
  subst hnone
  generalize hrun : computation.run.run table = outcome at hdoes
  obtain ⟨result, middle⟩ := outcome
  cases result with
  | error failure =>
    rw [run_tryCatch_error hrun]
    obtain ⟨doomed, hdoes', hdoomed'⟩ := hhandle failure middle
    rw [← herror] at hdoes'
    exact ⟨doomed, hdoes.bind hdoes', hdoomed'⟩
  | ok a =>
    rw [run_tryCatch_ok hrun]
    exact ⟨none, hdoes.bind_done (hok a), fun h => absurd rfl h⟩

end Follows

/-! ### At the table -/

theorem mirrors_observe (company : Company) (level : Nat) :
    company.Mirrors level Routine.access.observe company.access.observe :=
  fun table => .ask rfl (.done company level table _)

/-- Whoever has an event accepted waits for the table, which does not change because of that. -/
theorem Does.confirmed {table after : Table} {routine : Routine (Except Refusal α)}
    {result : Except Refusal α} (h : company.Does level routine table none result after) :
    company.Does level (Routine.confirmed routine) table none result after := by
  refine h.bind ?_
  cases result with
  | error refusal => exact .done company level after _
  | ok a =>
    have hlocal : company.local? after .confirm = some (after, ()) := rfl
    exact .ask hlocal (.done company level after _)

theorem mirrors_apply (company : Company) (level : Nat) (event : GameEvent) :
    company.Mirrors level (Routine.access.apply event) (company.access.apply event) := by
  intro table
  have hlocal : company.local? table (.apply event) =
      some ((table.apply event).1, (table.apply event).2) := rfl
  exact Does.confirmed (.ask hlocal (.done company level _ _))

theorem mirrors_applyOr (company : Company) (level : Nat) (preferred fallback : GameEvent) :
    company.Mirrors level (Routine.access.applyOr preferred fallback)
      (company.access.applyOr preferred fallback) := by
  intro table
  have hlocal : company.local? table (.applyOr preferred fallback) =
      some ((table.applyOr preferred fallback).1, (table.applyOr preferred fallback).2) := rfl
  exact Does.confirmed (.ask hlocal (.done company level _ _))

theorem follows_send (company : Company) (level : Nat) (event : GameEvent) :
    company.Follows level (Routine.access.send event) (company.access.send event) := by
  refine Follows.lift (mirrors_apply company level event) fun result => ?_
  cases result with
  | ok states => exact .pure company level states
  | error refusal => exact .throw company level (.ofRefusal refusal)

theorem follows_sendOr (company : Company) (level : Nat) (preferred fallback : GameEvent) :
    company.Follows level (Routine.access.sendOr preferred fallback)
      (company.access.sendOr preferred fallback) := by
  refine Follows.lift (mirrors_applyOr company level preferred fallback) fun result => ?_
  cases result with
  | ok fits => exact .pure company level fits
  | error refusal => exact .throw company level (.ofRefusal refusal)

theorem follows_settleAttack (company : Company) (level : Nat) (origin victim : PlayerId)
    (defence : Option Card) :
    company.Follows level (Routine.access.settleAttack origin victim defence)
      (company.access.settleAttack origin victim defence) := by
  cases defence with
  | none => exact (follows_send company level _).bind fun _ => .pure company level _
  | some card => exact (follows_sendOr company level _ _).bind fun _ => .pure company level _

/-! ### Participants -/

/-- The steps of a participant. -/
theorem follows_player (company : Company) (level : Nat) (id : PlayerId) (chooser : Chooser)
    (authority : Authority Routine) (authority' : Authority (StateM Table)) {request : Request}
    (hside : request.side = .client) :
    company.Follows level (authority.beside (Routine.player id chooser) request)
      (authority'.beside (player id chooser) request) := by
  have hchoice {α : Type} (what : String) (choice : GameState → Option α) :
      company.Follows level
        (ExceptT.lift Routine.access.observe >>= fun state => Chooser.chosen what (choice state))
        (ExceptT.lift company.access.observe >>= fun state =>
          Chooser.chosen what (choice state)) := by
    refine .lift (mirrors_observe company level) fun state => ?_
    cases choice state with
    | none => exact .throw company level _
    | some a => exact .pure company level a
  cases request with
  | checkStumbling | selectResponse | getGameState =>
    exact .lift (mirrors_observe company level) fun state => .pure company level _
  | playCard => exact hchoice "card" fun state => chooser.card state id
  | selectPlayer => exact hchoice "player" fun state => chooser.player state id
  | selectAttack => exact hchoice "bug report" fun state => chooser.attack state id
  | selectDiscardCards amount =>
    exact hchoice "cards to discard" fun state => chooser.discards state id amount
  | _ => cases hside

end Company

/-! ### Asking others -/

namespace Company

section

variable {request : Request} {computation : ExceptT Failure (StateM Table) request.Answer}

/-- The program of one step comes to the reply to it. -/
theorem Follows.program {resolve : Resolver Routine}
    (h : company.Follows level (resolve request) computation) :
    company.Follows level (request.program.run resolve)
      (computation >>= fun answer => Pure.pure (request.expectation.wrap answer)) :=
  h.bind fun answer => .pure company level (request.expectation.wrap answer)

/-- **Asking the other side comes to what the other side comes to**, but for the kind of failures. A
failure may be fatal only where nobody else waits. -/
theorem Follows.ask {place : LinkEnd} (hplace : (company.chooser? place.guest).isSome = true)
    (hrank : place.rank < level)
    (h : company.Follows place.rank (company.execute place.partner place.owner request)
      (computation >>= fun answer => Pure.pure (request.expectation.wrap answer)))
    (hfatal : level ≤ 2 → ∀ table failure,
      (computation.run.run table).1 = .error failure → failure.isFatal = false) :
    company.Follows level (Routine.ask place request) (remotely computation) := by
  intro table
  obtain ⟨doomed, hdoes, hdoomed⟩ := h table
  have hnone : doomed = none := by
    refine Classical.byContradiction fun hne => ?_
    exact absurd (hdoomed hne).1 (Nat.not_lt.mpr place.rank_le)
  subst hnone
  have hremote : (remotely computation).run.run table =
      ((computation.run.run table).1.mapError fun failure => .remote failure.message,
        (computation.run.run table).2) := rfl
  obtain ⟨next, hnext, hok⟩ :
      ∃ next : Except Failure Reply → Routine (Except Failure request.Answer),
      (Routine.ask place request).run = Interaction.bind (Routine.call place request).run next ∧
      ∀ reply, next (.ok reply) = Interaction.done (reply.read request.expectation) :=
    ⟨_, rfl, fun _ => rfl⟩
  rw [hremote, hnext]
  generalize houtcome : computation.run.run table = outcome
  obtain ⟨result, after⟩ := outcome
  cases result with
  | ok answer =>
    rw [run_bind_ok houtcome] at hdoes
    have hnobody : IsDoomed level place (.ok (request.expectation.wrap answer)) none :=
      .inl ⟨rfl, fun _ h => by cases h⟩
    refine ⟨none, (hdoes.call hplace hrank hnobody).bind_done ?_, fun h => absurd rfl h⟩
    exact (hok _).trans (congrArg _ (Reply.read_wrap request.expectation answer))
  | error failure =>
    rw [run_bind_error houtcome] at hdoes
    have hread : next (.ok (delivered (.error failure))) =
        Interaction.done (.error (.remote failure.message)) :=
      (hok _).trans (congrArg _ (Reply.read_failed request failure.message))
    by_cases hlevel : level ≤ 2
    · have hnobody : IsDoomed level place (.error failure) none := by
        refine .inl ⟨rfl, ?_⟩
        rintro _ ⟨⟩
        exact hfatal hlevel table failure (by rw [houtcome])
      exact ⟨none, (hdoes.call hplace hrank hnobody).bind_done hread, fun h => absurd rfl h⟩
    · have hlevel := Nat.lt_of_not_le hlevel
      have hpartner : IsDoomed level place (.error failure) (some place.partner) :=
        .inr ⟨rfl, hlevel⟩
      exact ⟨some place.partner, (hdoes.call hplace hrank hpartner).bind_done hread,
        fun _ => ⟨hlevel, _, rfl⟩⟩

end

/-- No failure of a participant who makes choices is fatal. -/
theorem isFatal_player {id : PlayerId} {chooser : Chooser} {authority : Authority (StateM Table)}
    {request : Request} (hside : request.side = .client) {table : Table} {failure : Failure}
    (h : ((authority.beside (player id chooser) request).run.run table).1 = .error failure) :
    failure.isFatal = false := by
  have hchoice {α : Type} (what : String) (choice : Option α)
      (h : ((Chooser.chosen what choice : ExceptT Failure (StateM Table) α).run.run table).1 =
        .error failure) : failure.isFatal = false := by
    cases choice <;> cases h
    rfl
  cases request with
  | checkStumbling | selectResponse | getGameState => cases h
  | playCard => exact hchoice "card" _ h
  | selectPlayer => exact hchoice "player" _ h
  | selectAttack => exact hchoice "bug report" _ h
  | selectDiscardCards amount => exact hchoice "cards to discard" _ h
  | _ => cases hside

/-- **The server asks a participant.** -/
theorem follows_askParticipant (company : Company) (hlevel : 1 < level) (id : PlayerId)
    {request : Request} (hside : request.side = .client) :
    company.Follows level (Routine.askParticipant id request) (company.access.ask id request) := by
  intro table
  have hrun : (Routine.askParticipant id request).run =
      Interaction.ask (.isLinked id) fun linked =>
        if linked then (Routine.ask (.ofServer id) request).run
        else Interaction.done
          (.error (.routing ("no session link for participant " ++ toString id))) := by
    refine congrArg (Interaction.ask _) (funext fun linked => ?_)
    cases linked <;> rfl
  have hlocal : company.local? table (.isLinked id) =
    some (table, (company.chooser? id).isSome) := rfl
  rw [hrun, access]
  dsimp only
  cases hchooser : company.chooser? id with
  | none =>
    rw [hchooser] at hlocal
    exact ⟨none, .ask hlocal (.done company level table _), fun h => absurd rfl h⟩
  | some chooser =>
    rw [hchooser] at hlocal
    have hexecute : company.execute (.participant id) .server request =
        request.program.run (Authority.nobody.beside (Routine.player id chooser)) := by
      rw [execute, hchooser]
      rfl
    have hask : company.Follows level (Routine.ask (.ofServer id) request)
        (remotely (Authority.nobody.beside (player id chooser) request)) := by
      refine .ask (by rw [LinkEnd.guest, hchooser]; rfl) hlevel ?_ fun _ _ _ => isFatal_player hside
      rw [show company.execute (LinkEnd.ofServer id).partner (LinkEnd.ofServer id).owner request =
        request.program.run (Authority.nobody.beside (Routine.player id chooser)) from hexecute]
      exact .program (follows_player company 1 id chooser _ _ hside)
    obtain ⟨doomed, hdoes, hdoomed⟩ := hask table
    exact ⟨doomed, .ask hlocal hdoes, hdoomed⟩

/-- **The server resolves its steps at the table.** -/
theorem follows_atTable (company : Company) (origin : PlayerId)
    (participant : Participant Routine) (participant' : Participant (StateM Table))
    {request : Request} (hside : request.side = .server) :
    company.Follows 2 ((Authority.atTable Routine.access origin).beside participant request)
      ((Authority.atTable company.access origin).beside participant' request) := by
  have hvictim (victim : PlayerId) : company.Follows 2 (Routine.access.askVictim victim)
      (company.access.askVictim victim) := by
    refine .tryCatch (follows_askParticipant company (Nat.lt_succ_self 1) victim rfl)
      (Nat.le_refl 2) fun failure => ?_
    split
    · exact .throw company 2 failure
    · exact .pure company 2 none
  cases request with
  | drawCards => exact (follows_send company 2 _).bind fun _ => .pure company 2 _
  | attackPlayer target bug =>
    exact (follows_send company 2 _).bind fun _ => (hvictim target).bind fun defence =>
      follows_settleAttack company 2 origin target defence
  | defendAttack defence =>
    refine .lift (mirrors_observe company 2) fun state => ?_
    split
    · exact (follows_settleAttack company 2 origin origin defence).bind fun _ => .pure company 2 _
    · exact .throw company 2 _
  | handleStumbling via =>
    cases via with
    | none => exact (follows_send company 2 _).bind fun _ => .pure company 2 _
    | some card => exact (follows_sendOr company 2 _ _).bind fun _ => .pure company 2 _
  | discard cards => exact (follows_send company 2 _).bind fun _ => .pure company 2 _
  | _ => cases hside

/-- **A participant asks the server.** -/
theorem follows_askServer (company : Company) {id : PlayerId}
    (hlinked : (company.chooser? id).isSome = true) {request : Request}
    (hside : request.side = .server) :
    company.Follows 3 (Routine.ask (.ofParticipant id) request) (company.askServer id request) := by
  refine .ask hlinked (Nat.lt_succ_self 2) ?_ fun hlevel =>
    absurd hlevel (Nat.not_le.mpr (Nat.lt_succ_self 2))
  exact .program (follows_atTable company id _ _ hside)

/-! ### Walks -/

theorem follows_onServer (company : Company) (id : PlayerId) (request : Request) :
    company.Follows 2 (Routine.onServer id (some id) request) (company.onServer id request) := by
  cases hside : request.side with
  | server => exact follows_atTable company id _ _ hside
  | client =>
    cases request with
    | drawCards | attackPlayer | defendAttack | handleStumbling | discard => cases hside
    | _ => exact follows_askParticipant company (Nat.lt_succ_self 1) id hside

theorem follows_onParticipant (company : Company) {id : PlayerId}
    (hlinked : (company.chooser? id).isSome = true) (chooser : Chooser) (request : Request) :
    company.Follows 3 (Routine.onParticipant id chooser request)
      (company.onParticipant id chooser request) := by
  cases hside : request.side with
  | client => exact follows_player company 3 id chooser _ _ hside
  | server =>
    cases request with
    | drawCards | attackPlayer | defendAttack | handleStumbling | discard =>
      exact follows_askServer company hlinked hside
    | _ => cases hside

/-- Walks come to the same if the steps do. -/
theorem Follows.run {resolve : Resolver Routine} {resolve' : Resolver (StateM Table)}
    (h : ∀ request, company.Follows level (resolve request) (resolve' request))
    (program : Program α) : company.Follows level (program.run resolve) (program.run resolve') := by
  rw [Program.run, Program.run]
  induction program.tree with
  | done result => exact .pure company level result
  | ask request next ih => exact (h request).bind ih

end Company

end RoundTable
