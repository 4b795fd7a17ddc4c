import RoundTable.Proofs.Session.AtOnce
import RoundTable.Proofs.Session.TypedReplies
import RoundTable.Proofs.Table.Linearizable
import RoundTable.Proofs.Walk.StepTrees

/-!
# Where a program is walked does not matter

A program may be walked by a participant, who asks the server for its steps, or by the server, who
asks the participant. Either way every step is resolved by the same side at the same table; so both
walks come to the same result and leave the same table, unless they fail. If they fail they still
leave the same table, but what has failed on the other side is known by its message only.

## Main definitions

* `Session.IsIdle`: a session in which nothing is going on
* `Session.ComesTo`: what a job comes to when nobody else acts
* `Company.Agree`: two computations on tables that differ in their failures only

## Main results

* `Company.Follows.comesTo`: a job comes to what its routine comes to
* `Company.agree_step`: a step comes to the same wherever the walk is
* `Request.read_delivered`: nothing but the kind of a failure is lost in a reply
* `Company.walk_anywhere`: it does not matter where a program is walked
-/

namespace RoundTable

variable {ρ α : Type} {company : Company}

/-! ### Sessions in which nothing is going on -/

/-- Everybody is there and resolves steps in the company's way, and nothing is under way. -/
structure Session.IsIdle (company : Company) (session : Session ρ) : Prop where
  tasks : session.tasks = []
  linked : ∀ id, (session.link? id).isSome = (company.chooser? id).isSome
  station : ∀ party station, session.station? party = some station →
    station.isPresent = true ∧ station.isRunning = true ∧
      station.execute = company.execute party
  desk : ∀ place desk, session.desk? place = some desk →
    desk.isListening = true ∧ desk.inbound = none ∧ desk.slot.live? = none
  handed : ∀ place desk next, session.desk? place = some desk →
    session.nextCall? place.owner = some next → ∀ entry ∈ desk.slot.handed, entry.1.number < next

/-- A job that somebody starts comes to a result and leaves a table, in whatever order things happen
after that. -/
def Session.ComesTo (session : Session ρ) (holder : Party) (routine : Routine ρ) (result : ρ)
    (after : Table) : Prop :=
  (session.start holder routine).1.Settles fun rested =>
    rested.ends = session.ends ++ [(session.started, .result result)] ∧ rested.table = after

/-- There is only one thing that a job comes to. -/
theorem Session.ComesTo.unique {session : Session ρ} {holder : Party} {routine : Routine ρ}
    {after after' : Table} {result result' : ρ} (h : session.ComesTo holder routine result after)
    (h' : session.ComesTo holder routine result' after') : result = result' ∧ after = after' := by
  obtain ⟨rested, ⟨hends, htable⟩, hends', htable'⟩ := Session.Settles.meet h h'
  rw [hends] at hends'
  obtain hresult := List.append_cancel_left hends'
  cases hresult
  exact ⟨rfl, htable.symm.trans htable'⟩

/-- Of two jobs that come to results that agree, the second one succeeds with what the first one
does. -/
theorem Session.ComesTo.of_toOption {session : Session (Except Failure α)} {holder holder' : Party}
    {routine routine' : Routine (Except Failure α)} {result result' : Except Failure α}
    {after after' : Table} {a : α} (h : session.ComesTo holder routine result after)
    (h' : session.ComesTo holder' routine' result' after)
    (hagree : result.toOption = result'.toOption)
    (hok : session.ComesTo holder routine (.ok a) after') :
    session.ComesTo holder' routine' (.ok a) after' := by
  obtain ⟨rfl, rfl⟩ := h.unique hok
  cases result' with
  | error failure => cases hagree
  | ok a' =>
    cases hagree
    exact h'

namespace Company

theorem link?_session (company : Company) (table : Table) (id : PlayerId) :
    (company.session table : Session ρ).link? id = (company.chooser? id).map fun chooser =>
      Session.openLink id (some (.choosing (Routine.player id chooser))) := by
  rw [chooser?, Session.link?, Company.session, Session.opened, List.map_map, List.find?_map]
  change Option.map _ (company.find? fun member => member.1 = id) = _
  cases hfind : company.find? fun member => member.1 = id with
  | none => rfl
  | some member =>
    have hid : member.1 = id := by simpa using List.find?_some hfind
    simp [← hid, Mode.execute?]

/-- When a session has just been opened, nothing is going on. -/
theorem isIdle_session (company : Company) (table : Table) :
    (company.session table : Session ρ).IsIdle company := by
  refine ⟨rfl, fun id => by rw [link?_session, Option.isSome_map], fun party station h => ?_,
    fun place desk h => ?_, fun place desk next h _ entry hentry => ?_⟩
  · cases party with
    | server =>
      cases h
      exact ⟨rfl, rfl, rfl⟩
    | participant id =>
      rw [Session.station?, link?_session] at h
      obtain ⟨link, hlink, rfl⟩ := Option.map_eq_some_iff.mp h
      obtain ⟨chooser, hchooser, rfl⟩ := Option.map_eq_some_iff.mp hlink
      refine ⟨rfl, rfl, ?_⟩
      rw [execute, hchooser]
      rfl
  · rw [Session.desk?_opened h]
    exact ⟨rfl, rfl, rfl⟩
  · rw [Session.desk?_opened h] at hentry
    exact absurd hentry List.not_mem_nil

/-! ### Jobs when nobody else acts -/

/-- The scene in which a job has just been started. -/
def opening (session : Session ρ) (holder : Party) (routine : Routine ρ) : Scene ρ :=
  ({ table := session.table, post := fun _ => .free, letter := none, busy := none, waiting := [],
     ends := session.ends, doomed := none } : Scene ρ).turn (.job session.started holder)
    session.spawned none routine

theorem fits_opening (hcompany : ∃ id, (company.chooser? id).isSome = true) {session : Session ρ}
    (hidle : session.IsIdle company) (holder : Party) (routine : Routine ρ) :
    (opening session holder routine).Fits company (session.start holder routine).1 := by
  have hnobody {Q : Party → Prop} : ∀ party ∈ (none : Option Party), Q party :=
    fun party h => absurd h (Option.not_mem_none party)
  have hplaces : (opening session holder routine).FitsPlaces company session := by
    refine ⟨rfl, rfl, fun place => ?_, fun party station hstation => ?_,
      fun place desk station hdesk hstation => ?_⟩
    · cases place <;> simp [Session.desk?, hidle.linked, LinkEnd.guest]
    · obtain ⟨hpresent, hrunning, hexecute⟩ := hidle.station party station hstation
      exact ⟨hpresent, hexecute, .inr hrunning⟩
    · obtain ⟨hlistening, hinbound, hlive⟩ := hidle.desk place desk hdesk
      refine ⟨fun _ => hlistening, hinbound, ?_, hlive⟩
      refine hidle.handed place desk station.nextCall hdesk ?_
      rw [Session.nextCall?, hstation]
      rfl
  have htasks : (session.start holder routine).1.tasks =
      [⟨session.spawned, .job session.started holder routine, none⟩] :=
    congrArg (· ++ _) hidle.tasks
  refine ⟨⟨fun _ h => absurd h List.not_mem_nil, fun _ _ => rfl, hcompany,
    List.nodup_cons.mpr ⟨List.not_mem_nil, .nil⟩, hnobody, hnobody⟩, ?_, ?_, ?_, ?_, ?_⟩
  · refine hplaces.congr rfl rfl (fun place => ?_) fun party => ?_
    · cases place <;> rfl
    · cases party <;> rfl
  · rw [htasks]
    exact List.nodup_cons.mpr ⟨List.not_mem_nil, .nil⟩
  · rw [htasks]
    intro task hmem
    rw [List.mem_singleton.mp hmem]
    exact Nat.lt_succ_self session.spawned
  · rw [htasks]
    exact fun task hmem => hmem
  · rw [htasks]
    exact fun task hmem => .inl hmem

/-- A job comes to what its routine comes to when it is not disturbed. -/
theorem Follows.comesTo {level : Nat} {routine : ExceptT Failure Routine α}
    {computation : ExceptT Failure (StateM Table) α}
    (h : company.Follows level routine computation)
    (hcompany : ∃ id, (company.chooser? id).isSome = true) {session : Session (Except Failure α)}
    (hidle : session.IsIdle company) (holder : Party) :
    session.ComesTo holder routine.run (computation.run.run session.table).1
      (computation.run.run session.table).2 := by
  obtain ⟨doomed, hdoes, -⟩ := h session.table
  have hsettles := hdoes.settles (fun rested => rested.ends = session.ends ++ [(session.started,
      .result (computation.run.run session.table).1)] ∧
        rested.table = (computation.run.run session.table).2)
    { table := session.table, post := fun _ => .free, letter := none, busy := none, waiting := [],
      ends := session.ends, doomed := none } (.job session.started holder) session.spawned
    Interaction.done rfl ⟨rfl, fun _ _ => rfl, fun _ => ⟨rfl, fun _ => rfl⟩⟩
    (Scene.settles_jobDone (Scene.settles_of_idle rfl rfl fun rested hfits =>
      ⟨hfits.places.ends, hfits.places.table⟩))
  rw [Interaction.bind_done] at hsettles
  exact hsettles _ (fits_opening hcompany hidle holder routine.run)

/-! ### One result for both walks -/

/-- Two computations succeed at the same tables with the same result, and leave the same tables even
where they fail. -/
def Agree (one other : ExceptT Failure (StateM Table) α) : Prop :=
  ∀ table, (one.run.run table).1.toOption = (other.run.run table).1.toOption ∧
    (one.run.run table).2 = (other.run.run table).2

theorem Agree.refl (computation : ExceptT Failure (StateM Table) α) :
    Agree computation computation :=
  fun _ => ⟨rfl, rfl⟩

theorem agree_remotely (computation : ExceptT Failure (StateM Table) α) :
    Agree (remotely computation) computation := by
  intro table
  have hremote : (remotely computation).run.run table =
      ((computation.run.run table).1.mapError fun failure => .remote failure.message,
        (computation.run.run table).2) := rfl
  rw [hremote]
  cases (computation.run.run table).1 <;> exact ⟨rfl, rfl⟩

theorem Agree.symm {one other : ExceptT Failure (StateM Table) α} (h : Agree one other) :
    Agree other one :=
  fun table => ⟨(h table).1.symm, (h table).2.symm⟩

theorem Agree.bind {β : Type} {one other : ExceptT Failure (StateM Table) α}
    {next next' : α → ExceptT Failure (StateM Table) β} (h : Agree one other)
    (hnext : ∀ a, Agree (next a) (next' a)) : Agree (one >>= next) (other >>= next') := by
  intro table
  obtain ⟨hresult, htable⟩ := h table
  generalize hone : one.run.run table = outcome at hresult htable
  generalize hother : other.run.run table = outcome' at hresult htable
  obtain ⟨result, after⟩ := outcome
  obtain ⟨result', after'⟩ := outcome'
  cases htable
  cases result with
  | error failure =>
    cases result' with
    | error failure' =>
      rw [run_bind_error hone, run_bind_error hother]
      exact ⟨rfl, rfl⟩
    | ok a' => cases hresult
  | ok a =>
    cases result' with
    | error failure' => cases hresult
    | ok a' =>
      cases hresult
      rw [run_bind_ok hone, run_bind_ok hother]
      exact hnext a after

theorem access_ask {id : PlayerId} {chooser : Chooser}
    (hchooser : company.chooser? id = some chooser) (request : Request) :
    company.access.ask id request =
      remotely (Authority.nobody.beside (player id chooser) request) := by
  dsimp only [access]
  rw [hchooser]

/-- A step comes to the same wherever the walk is: either the participant resolves it, or the table
does. -/
theorem agree_step {id : PlayerId} {chooser : Chooser}
    (hchooser : company.chooser? id = some chooser) (request : Request) :
    Agree (company.onParticipant id chooser request) (company.onServer id request) := by
  have hasked : Agree (Authority.nobody.beside (player id chooser) request)
      (company.access.ask id request) := by
    rw [access_ask hchooser]
    exact (agree_remotely _).symm
  cases request with
  | drawCards | attackPlayer | defendAttack | handleStumbling | discard => exact agree_remotely _
  | _ => exact hasked

theorem agree_run {resolve resolve' : Resolver (StateM Table)}
    (h : ∀ request, Agree (resolve request) (resolve' request)) (program : Program α) :
    Agree (program.run resolve) (program.run resolve') := by
  rw [Program.run, Program.run]
  induction program.tree with
  | done result => exact .refl _
  | ask request next ih => exact (h request).bind ih

/-! ### What the parties come to -/

section

variable {id : PlayerId} {chooser : Chooser}

theorem isSome_of_chooser? (hchooser : company.chooser? id = some chooser) :
    (company.chooser? id).isSome = true := by
  rw [hchooser]
  rfl

/-- Both walks of a program come to something, to the same if one of them succeeds. -/
theorem comesTo_walks (hchooser : company.chooser? id = some chooser)
    {session : Session (Except Failure α)} (hidle : session.IsIdle company) (program : Program α) :
    ∃ result result' after,
      session.ComesTo (.participant id) (program.run (Routine.onParticipant id chooser)).run result
        after ∧
      session.ComesTo .server (program.run (Routine.onServer id (some id))).run result' after ∧
      result.toOption = result'.toOption := by
  have hlinked := isSome_of_chooser? hchooser
  have hparticipant :=
    (Follows.run (company.follows_onParticipant hlinked chooser) program).comesTo ⟨id, hlinked⟩
      hidle (.participant id)
  have hserver :=
    (Follows.run (company.follows_onServer id) program).comesTo ⟨id, hlinked⟩ hidle .server
  obtain ⟨hresult, htable⟩ := agree_run (agree_step hchooser) program session.table
  rw [htable] at hparticipant
  exact ⟨_, _, _, hparticipant, hserver, hresult⟩

/-- A step of the server comes to the same for a participant who asks for it, but for the kind of
failures. -/
theorem comesTo_askServer (hchooser : company.chooser? id = some chooser) {request : Request}
    {session : Session (Except Failure request.Answer)} (hidle : session.IsIdle company)
    (hside : request.side = .server) :
    ∃ result after,
      session.ComesTo .server ((Authority.atTable Routine.access id).beside .nobody request).run
        result after ∧
      session.ComesTo (.participant id) (Routine.ask (.ofParticipant id) request).run
        (result.mapError fun failure => .remote failure.message) after := by
  have hlinked := isSome_of_chooser? hchooser
  have hserver := (company.follows_atTable id .nobody .nobody hside).comesTo ⟨id, hlinked⟩ hidle
    .server
  have hparticipant := (company.follows_askServer hlinked hside).comesTo ⟨id, hlinked⟩ hidle
    (.participant id)
  exact ⟨_, _, hserver, hparticipant⟩

/-- A step of a participant comes to the same for the server that asks for it, but for the kind of
failures. -/
theorem comesTo_askParticipant (hchooser : company.chooser? id = some chooser) {request : Request}
    {session : Session (Except Failure request.Answer)} (hidle : session.IsIdle company)
    (hside : request.side = .client) :
    ∃ result after,
      session.ComesTo (.participant id)
        (Authority.nobody.beside (Routine.player id chooser) request).run result after ∧
      session.ComesTo .server (Routine.askParticipant id request).run
        (result.mapError fun failure => .remote failure.message) after := by
  have hlinked := isSome_of_chooser? hchooser
  have hserver := (company.follows_askParticipant (Nat.lt_succ_self 1) id hside).comesTo
    ⟨id, hlinked⟩ hidle .server
  rw [access_ask hchooser] at hserver
  have hparticipant := (company.follows_player 0 id chooser .nobody .nobody hside).comesTo
    ⟨id, hlinked⟩ hidle (.participant id)
  exact ⟨_, _, hparticipant, hserver⟩

end

end Company

/-- What is sent back for a request and taken out of the reply is what comes of the step itself, but
for the kind of failures. -/
theorem Request.read_delivered (request : Request) (resolve : Resolver Routine) :
    (do
      let outcome ← (request.program.run resolve).run
      return (delivered outcome).read request.expectation) =
    (do
      let outcome ← (resolve request).run
      return outcome.mapError fun failure => .remote failure.message) := by
  rw [run_program, ExceptT.run_bind, bind_assoc]
  refine bind_congr fun outcome => ?_
  cases outcome with
  | ok answer =>
    change (pure ((request.expectation.wrap answer).read request.expectation) : Routine _) =
      pure (.ok answer)
    rw [Reply.read_wrap]
  | error failure =>
    change (pure ((Reply.failed failure.message).read request.expectation) : Routine _) =
      pure (.error (.remote failure.message))
    rw [Reply.read_failed]

/-- **Where a program is walked does not matter.** In a session in which nothing is going on, the
walk by a participant succeeds with a result and leaves a table if and only if the walk by the
server does, and both always come to something. A single step that is asked of the other side comes
to what it comes to there, but that a failure is known by its message only; and so does whatever is
sent back for a request, whoever resolves it. Never, whatever happens to a session and whoever
leaves it, is a reply of another kind than the one that is waited for, as long as all jobs are walks
of the parties and nobody sends by hand. -/
theorem Company.walk_anywhere {company : Company} {id : PlayerId} {chooser : Chooser}
    (hchooser : company.chooser? id = some chooser) :
    (∀ {α : Type} (program : Program α) (session : Session (Except Failure α)),
      session.IsIdle company →
      let byParticipant := session.ComesTo (.participant id)
        (program.run (Routine.onParticipant id chooser)).run
      let byServer := session.ComesTo .server (program.run (Routine.onServer id (some id))).run
      (∀ a after, byParticipant (.ok a) after ↔ byServer (.ok a) after) ∧
      ∃ result result' after, byParticipant result after ∧ byServer result' after ∧
        result.toOption = result'.toOption) ∧
    (∀ (request : Request) (session : Session (Except Failure request.Answer)),
      session.IsIdle company →
      (request.side = .server → ∃ result after,
        session.ComesTo .server ((Authority.atTable Routine.access id).beside .nobody request).run
          result after ∧
        session.ComesTo (.participant id) (Routine.ask (.ofParticipant id) request).run
          (result.mapError fun failure => .remote failure.message) after) ∧
      (request.side = .client → ∃ result after,
        session.ComesTo (.participant id)
          (Authority.nobody.beside (Routine.player id chooser) request).run result after ∧
        session.ComesTo .server (Routine.askParticipant id request).run
          (result.mapError fun failure => .remote failure.message) after)) ∧
    (∀ (request : Request) (resolve : Resolver Routine),
      (do
        let outcome ← (request.program.run resolve).run
        return (delivered outcome).read request.expectation) =
      (do
        let outcome ← (resolve request).run
        return outcome.mapError fun failure => .remote failure.message)) ∧
    ∀ {α : Type} (table : Table) (participants : List (PlayerId × Mode))
      (moves : List (Move (Except Failure α))) (session : Session (Except Failure α)),
      (∀ move ∈ moves, move.IsOwn) →
      (Session.opened table (some (.atTable Routine.access))
        (participants.map fun p => (p.1, p.2.execute? p.1))).run? moves = some session →
      session.IsProper := by
  refine ⟨?_, ?_, ?_, ?_⟩
  · intro α program session hidle byParticipant byServer
    obtain ⟨result, result', after, hparticipant, hserver, hresult⟩ :=
      comesTo_walks hchooser hidle program
    exact ⟨fun a after' => ⟨hparticipant.of_toOption hserver hresult,
      hserver.of_toOption hparticipant hresult.symm⟩,
      result, result', after, hparticipant, hserver, hresult⟩
  · intro request session hidle
    exact ⟨comesTo_askServer hchooser hidle, comesTo_askParticipant hchooser hidle⟩
  · exact Request.read_delivered
  · intro α table participants moves session hmoves hrun
    exact Session.isProper_of_run? hmoves hrun

/-- Two players who take whatever comes first. -/
def Company.hasty : Company := [(⟨0⟩, .first), (⟨1⟩, .first)]

/-- The server plays a turn in which its participant cannot be asked any more. -/
def Company.farewell : List (Move (Except Failure TurnReport)) :=
  [.start .server Routine.access.driveTurn.run, .disconnect ⟨0⟩] ++
    List.replicate 7 (.step (.advance 0))

theorem Company.walk_anywhere_hasty :
    (∃ after, (hasty.session Gate.duel).ComesTo (.participant ⟨0⟩)
      (Program.playTurn.run (Routine.onParticipant ⟨0⟩ .first)).run
      (.ok ⟨.success, [.bug .systemHangs], .success, []⟩) after) ∧
    ∃ session, (hasty.session Gate.duel).run? farewell = some session ∧ session.IsProper := by
  have hchooser : hasty.chooser? ⟨0⟩ = some .first := rfl
  obtain ⟨hwalks, -, -, hproper⟩ := walk_anywhere hchooser
  refine ⟨?_, ?_⟩
  · have hidle := hasty.isIdle_session (ρ := Except Failure TurnReport) Gate.duel
    have hserver := (Follows.run (hasty.follows_onServer ⟨0⟩) Program.playTurn).comesTo
      ⟨⟨0⟩, rfl⟩ hidle .server
    have hresult : ((Program.playTurn.run (hasty.onServer ⟨0⟩)).run.run Gate.duel).1 =
        .ok ⟨.success, [.bug .systemHangs], .success, []⟩ := by rfl
    have htable : (hasty.session Gate.duel : Session (Except Failure TurnReport)).table =
        Gate.duel := rfl
    rw [htable, hresult] at hserver
    exact ⟨_, ((hwalks _ _ hidle).1 _ _).mpr hserver⟩
  · have hmoves : ∀ move ∈ farewell, move.IsOwn := by
      simp [farewell, Move.IsOwn, Routine.IsOwn.turn]
    have hsome : ((hasty.session Gate.duel).run? farewell).isSome = true := by decide +kernel
    obtain ⟨session, hrun⟩ := Option.isSome_iff_exists.mp hsome
    have hopened : hasty.session Gate.duel =
        (Session.opened Gate.duel (some (.atTable Routine.access))
          ([(⟨0⟩, .choosing .first), (⟨1⟩, .choosing .first)].map fun p : PlayerId × Mode =>
            (p.1, p.2.execute? p.1)) : Session (Except Failure TurnReport)) := rfl
    exact ⟨session, hrun, hproper Gate.duel _ farewell session hmoves (hopened ▸ hrun)⟩

end RoundTable
