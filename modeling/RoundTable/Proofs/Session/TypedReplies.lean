import RoundTable.Proofs.Session.Parties
import RoundTable.Proofs.Session.Provenance

/-!
# Replies are of the kind that is waited for

Whoever waits for a reply expects one kind of it, and a reply of another kind is a failure that ends
the session. Between server and participants that resolve steps in their own ways this never
happens, whatever else does: every reply that is under way is an answer to the action that its
caller has sent, or says that there is none.

## Main definitions

* `Manners.typed`: routines that reply as they should
* `Session.Typed`: all replies are to the actions that were asked
* `Move.IsOwn`, `Session.IsProper`: what the parties do of their own accord, and that nothing has
  failed because of the kind of a reply

## Main results

* `Session.Typed.moved`, `Session.Typed.run?`: so it is after every move, and after moves one after
  another
* `Session.isProper_of_run?`: nobody ever learns of a reply of the wrong kind
-/

namespace RoundTable

/-- A failure other than that a reply is of the wrong kind. -/
def Failure.IsProper (failure : Failure) : Prop :=
  ∀ expected found, failure ≠ .mismatch expected found

theorem Failure.isProper_disconnected : Failure.IsProper .disconnected := fun _ _ h => by cases h

/-! ### Manners -/

/-- A question that is no part of a call; if it sends something, it is the result that is due. -/
def Effect.IsDue (duty : Option (LinkEnd × CallId × Request)) : Effect → Prop
  | .number _ | .register _ _ | .await _ _ | .cancel _ _ => False
  | .send place command => ∃ origin call value action,
      command = .result origin call value ∧ duty = some (place, call, action) ∧ value.Fits action
  | _ => True

/-- Calls come to replies that fit; and the only command that is sent besides is the result of the
action that is to be resolved, if there is one. -/
def Manners.typed (duty : Option (LinkEnd × CallId × Request)) : Manners where
  calls _ := True
  spares effect := effect.IsDue duty
  answers action
    | .ok reply => reply.Fits action
    | .error failure => failure.IsProper

theorem Manners.lenient_typed (duty : Option (LinkEnd × CallId × Request)) :
    (typed duty).Lenient anyEnd Failure.IsProper where
  observe := trivial
  apply _ := trivial
  applyOr _ _ := trivial
  confirm := trivial
  isLinked _ := trivial
  call place action _ := Routine.orderly_call trivial action
  answer action reply h := by
    cases reply with
    | error failure => exact h
    | ok reply =>
      obtain ⟨answer, rfl⟩ | ⟨reason, rfl⟩ := h
      · change Manners.Sound _ ((action.expectation.wrap answer).read action.expectation)
        rw [Reply.read_wrap]
        trivial
      · change Manners.Sound _ ((Reply.failed reason).read action.expectation)
        rw [Reply.read_failed]
        exact fun _ _ => nofun
  other failure h := h

variable {α : Type} {asked asked' : LinkEnd → CallId → Option Request}
  {duty : Option (LinkEnd × CallId × Request)} {stage : CallStage} {place : LinkEnd}

/-! ### What has been asked -/

/-- A command that has arrived at an end: an action that was asked at the other end, or a reply to
an action that was asked here. -/
def Command.IsTyped (asked : LinkEnd → CallId → Option Request) (place : LinkEnd) : Command → Prop
  | delegate _ call action => asked place.opposite call = some action
  | result _ call value => ∃ action, asked place call = some action ∧ value.Fits action

/-- The action of a call under way is the one that was asked. Only where there is nobody to give out
numbers it may be unknown, up to the moment at which the call would register. -/
def CallStage.IsTyped (asked : LinkEnd → CallId → Option Request) (next : Party → Option Nat) :
    CallStage → Prop
  | free => True
  | numbered place call action => next place.owner = none ∨ asked place call = some action
  | registered place call action | waiting place call action | withdrawing place call action =>
    asked place call = some action

/-- A walk or a job that stands at a stage of a call. -/
def Activity.IsTyped (duty : Option (LinkEnd × CallId × Request)) :
    Activity (Except Failure α) → CallStage → Prop
  | .walk _ routine, stage =>
    Routine.Stands (.typed duty) (Manners.Sound Failure.IsProper) routine stage
  | .job _ _ routine, stage =>
    Routine.Stands (.typed duty) (Manners.Sound Failure.IsProper) routine stage

/-- A task that replies as it should, if it has to. -/
def Task.IsTyped (asked : LinkEnd → CallId → Option Request) (next : Party → Option Nat)
    (task : Task (Except Failure α)) : Prop :=
  ∃ duty stage, task.activity.IsTyped duty stage ∧ stage.IsTyped asked next ∧
    ∀ place call action, duty = some (place, call, action) →
      asked place.opposite call = some action

/-- An end of a job other than that a reply was of the wrong kind. -/
def JobEnd.IsProper (jobEnd : JobEnd (Except Failure α)) : Prop :=
  ∀ failure, jobEnd = .result (.error failure) → failure.IsProper

theorem JobEnd.isProper_aborted : (JobEnd.aborted : JobEnd (Except Failure α)).IsProper :=
  fun _ h => by cases h

/-- All replies are to the actions that were asked. -/
structure Session.Typed (asked : LinkEnd → CallId → Option Request)
    (session : Session (Except Failure α)) : Prop where
  fresh : ∀ place call action next, asked place call = some action →
    session.nextCall? place.owner = some next → call.number < next
  inbound : ∀ place desk, session.desk? place = some desk →
    ∀ command ∈ desk.inbound, command.IsTyped asked place
  handed : ∀ place desk, session.desk? place = some desk → ∀ entry ∈ desk.slot.handed,
    ∃ action, asked place entry.1 = some action ∧ entry.2.Fits action
  executes : ∀ party station, session.station? party = some station → ∀ duty,
    Routine.OrderlyExecutor (.typed duty) Failure.IsProper station.execute
  routers : ∀ party station failure, session.station? party = some station →
    station.router = .ended (.error (.failed failure)) → failure.IsProper
  tasks : ∀ task ∈ session.tasks, task.IsTyped asked session.nextCall?
  ends : ∀ jobEnd ∈ session.ends, jobEnd.2.IsProper

/-- Whoever starts a job starts one that is as it should be, and nobody sends by hand. -/
def Move.IsTyped : Move (Except Failure α) → Prop
  | .start _ routine => Routine.Stands (.typed none) (Manners.Sound Failure.IsProper) routine .free
  | .send _ _ => False
  | _ => True

/-! ### Stages -/

theorem Activity.IsTyped.asks {activity : Activity (Except Failure α)}
    (h : activity.IsTyped duty stage) {effect : Effect}
    {goOn : effect.Answer → Activity (Except Failure α)}
    (hquestion : activity.question? = some ⟨effect, goOn⟩) :
    Routine.Asks (.typed duty) (Activity.IsTyped duty) stage effect goOn := by
  cases activity with
  | walk router routine =>
    cases routine with
    | done result => cases hquestion
    | ask effect next =>
      cases hquestion
      exact Routine.Stands.asks (Activity.walk router) h fun _ _ hstands => hstands
  | job number holder routine =>
    cases routine with
    | done result => cases hquestion
    | ask effect next =>
      cases hquestion
      exact Routine.Stands.asks (Activity.job number holder) h fun _ _ hstands => hstands

/-- More may have been asked, and numbers may have been given out. -/
theorem Task.IsTyped.mono {next next' : Party → Option Nat} {task : Task (Except Failure α)}
    (h : task.IsTyped asked next)
    (hasked : ∀ place call action, asked place call = some action → asked' place call = some action)
    (hnext : ∀ party, next party = none → next' party = none) : task.IsTyped asked' next' := by
  obtain ⟨duty, stage, hactivity, hstage, hduty⟩ := h
  refine ⟨duty, stage, hactivity, ?_, fun place call action heq => hasked _ _ _ (hduty _ _ _ heq)⟩
  cases stage with
  | free => trivial
  | numbered place call action => exact hstage.imp (hnext _) (hasked _ _ _)
  | registered | waiting | withdrawing => exact hasked _ _ _ hstage

/-- What a task sends is an action that it asks for, or a reply that is due. -/
theorem Task.IsTyped.sends {next : Party → Option Nat} {task : Task (Except Failure α)}
    (h : task.IsTyped asked next) {command : Command} {goOn : Bool → Activity (Except Failure α)}
    (hquestion : task.activity.question? = some ⟨.send place.opposite command, goOn⟩) :
    command.IsTyped asked place := by
  obtain ⟨duty, stage, hactivity, hstage, hduty⟩ := h
  have hasks := hactivity.asks hquestion
  cases hasks with
  | spare hdue =>
    obtain ⟨origin, call, value, action, rfl, hdue, hvalue⟩ := hdue
    have hasked := hduty _ _ _ hdue
    rw [LinkEnd.opposite_opposite] at hasked
    exact ⟨action, hasked, hvalue⟩
  | send => exact hstage

theorem Command.IsTyped.mono {command : Command} (h : command.IsTyped asked place)
    (hasked : ∀ place call action, asked place call = some action →
      asked' place call = some action) : command.IsTyped asked' place := by
  cases command with
  | delegate origin call action => exact hasked _ _ _ h
  | result origin call value =>
    obtain ⟨action, haction, hvalue⟩ := h
    exact ⟨action, hasked _ _ _ haction, hvalue⟩

namespace Session

variable {before middle after session : Session (Except Failure α)} {move : Move (Except Failure α)}
  {incident : Option Incident}

/-! ### Questions that are answered -/

/-- Numbers are given out, and nobody comes or goes. -/
def CountsOn (before after : Session (Except Failure α)) : Prop :=
  ∀ party next', after.nextCall? party = some next' →
    ∃ next, before.nextCall? party = some next ∧ next ≤ next'

theorem CountsOn.eq_none (h : CountsOn before after) {party : Party}
    (hnone : before.nextCall? party = none) : after.nextCall? party = none := by
  cases hafter : after.nextCall? party with
  | none => rfl
  | some next' =>
    obtain ⟨next, hnext, -⟩ := h party next' hafter
    cases hnone.symm.trans hnext

/-- What has been asked before a move is known after it, and all numbers have been given out. -/
structure Extends (asked asked' : LinkEnd → CallId → Option Request)
    (session : Session (Except Failure α)) : Prop where
  asked : ∀ place call action, asked place call = some action → asked' place call = some action
  fresh : ∀ place call action next, asked' place call = some action →
    session.nextCall? place.owner = some next → call.number < next

theorem Typed.extends (h : before.Typed asked) (hcounts : CountsOn before after) :
    Extends asked asked after := by
  refine ⟨fun _ _ _ h => h, fun place call action next' haction hnext' => ?_⟩
  obtain ⟨next, hnext, hle⟩ := hcounts place.owner next' hnext'
  exact Nat.lt_of_lt_of_le (h.fresh place call action next haction hnext) hle

theorem isProper_of_register {call : CallId} {failure : Failure}
    (h : session.perform? (.register place call) = some (after, .error failure)) :
    failure.IsProper := by
  simp only [perform?, register, Option.some.injEq] at h
  split at h
  case h_1 =>
    cases h
    exact Failure.isProper_disconnected
  case h_2 desk _ =>
    rw [Slot.register] at h
    cases hlive : desk.slot.live? with
    | some pending =>
      rw [hlive] at h
      cases h
      exact fun _ _ h => by cases h
    | none =>
      rw [hlive] at h
      cases h

/-- What a call returns with fits the action. -/
theorem Typed.answers_await (h : session.Typed asked) {call : CallId} {action : Request}
    (hasked : asked place call = some action) {answer : Except Failure Reply}
    (hperform : session.perform? (.await place call) = some (after, answer)) :
    (Manners.typed duty).answers action answer := by
  rw [perform?] at hperform
  split at hperform
  case h_1 =>
    cases hperform
    exact Failure.isProper_disconnected
  case h_2 desk hdesk =>
    obtain ⟨reply, hanswer, heq⟩ := Option.map_eq_some_iff.mp hperform
    cases heq
    rw [Slot.answer?] at hanswer
    split at hanswer
    case h_1 entry hentry =>
      cases hanswer
      have hcall : entry.1 = call := by simpa using List.find?_some hentry
      obtain ⟨action', haction', hfits⟩ :=
        h.handed place desk hdesk entry (List.mem_of_find?_eq_some hentry)
      rw [hcall, hasked] at haction'
      cases haction'
      exact hfits
    case h_2 =>
      split at hanswer <;> cases hanswer
      exact Failure.isProper_disconnected

/-- The next number of a party is the number of an action that has not been asked before. -/
theorem Typed.number (h : session.Typed asked) (action : Request) {call : CallId}
    (hperform : session.perform? (.number place.owner) = some (after, call))
    (hcounts : CountsOn session after) :
    ∃ asked', (after.nextCall? place.owner = none ∨ asked' place call = some action) ∧
      Extends asked asked' after := by
  cases hstation : session.station? place.owner with
  | none =>
    refine ⟨asked, .inl (hcounts.eq_none ?_), h.extends hcounts⟩
    rw [nextCall?, hstation]
    rfl
  | some station =>
    have hold := h.extends hcounts
    have hbefore : session.nextCall? place.owner = some station.nextCall := by
      rw [nextCall?, hstation]
      rfl
    obtain ⟨hcall, hafter⟩ : call = ⟨station.nextCall⟩ ∧
        after.nextCall? place.owner = some (station.nextCall + 1) := by
      cases hperform
      rw [hstation, nextCall?, station?_modifyStation, if_pos rfl, hstation]
      exact ⟨rfl, rfl⟩
    refine ⟨fun other given => if other = place ∧ given = call then some action
        else asked other given, .inr (if_pos ⟨rfl, rfl⟩), fun other given action' haction' => ?_,
      fun other given action' next' haction' hnext' => ?_⟩
    · have hne : ¬(other = place ∧ given = call) := by
        rintro ⟨rfl, rfl⟩
        have hlt := h.fresh other given action' station.nextCall haction' hbefore
        rw [hcall] at hlt
        exact Nat.lt_irrefl _ hlt
      rw [if_neg hne]
      exact haction'
    · split at haction'
      case isTrue hsame =>
        obtain ⟨rfl, rfl⟩ := hsame
        rw [hafter] at hnext'
        cases hnext'
        rw [hcall]
        exact Nat.lt_succ_self _
      case isFalse => exact hold.fresh other given action' next' haction' hnext'

/-- **A question of a task is answered**, and it goes on to the next stage. -/
theorem Typed.answered (h : session.Typed asked)
    {S : Activity (Except Failure α) → CallStage → Prop}
    (hstage : stage.IsTyped asked session.nextCall?) {effect : Effect}
    {goOn : effect.Answer → Activity (Except Failure α)}
    (hasks : Routine.Asks (.typed duty) S stage effect goOn) {answer : effect.Answer}
    (hperform : session.perform? effect = some (after, answer))
    (hcounts : CountsOn session after) :
    ∃ asked' stage', S (goOn answer) stage' ∧ stage'.IsTyped asked' after.nextCall? ∧
      Extends asked asked' after := by
  cases hasks with
  | spare hspares hnext => exact ⟨asked, .free, hnext answer, trivial, h.extends hcounts⟩
  | @number place action next _ hnext =>
    obtain ⟨asked', hasked, hextends⟩ := h.number action hperform hcounts
    exact ⟨asked', .numbered place answer action, hnext answer, hasked, hextends⟩
  | @register place call action next hok herror =>
    cases answer with
    | error failure =>
      exact ⟨asked, .free, herror failure (isProper_of_register hperform), trivial,
        h.extends hcounts⟩
    | ok =>
      refine ⟨asked, .registered place call action, hok, hstage.resolve_left ?_, h.extends hcounts⟩
      obtain ⟨failure, heq, -⟩ | ⟨-, slot, hslot, -, -⟩ := register_cases hperform
      · cases heq
      · obtain ⟨desk, hdesk, -⟩ := Option.map_eq_some_iff.mp hslot
        have hstation := isSome_station?_owner session place (by rw [hdesk]; rfl)
        obtain ⟨station, hstation⟩ := Option.isSome_iff_exists.mp hstation
        rw [nextCall?, hstation]
        exact Option.some_ne_none station.nextCall
  | @send place call action next hsent hunsent =>
    cases answer with
    | true => exact ⟨asked, .waiting place call action, hsent, hstage, h.extends hcounts⟩
    | false => exact ⟨asked, .withdrawing place call action, hunsent, hstage, h.extends hcounts⟩
  | await hreply =>
    exact ⟨asked, .free, hreply answer (h.answers_await hstage hperform), trivial,
      h.extends hcounts⟩
  | cancel hnext =>
    exact ⟨asked, .free, hnext Failure.isProper_disconnected, trivial, h.extends hcounts⟩

/-! ### Moves -/

theorem Moved.countsOn (h : Moved before move incident after) : CountsOn before after := by
  intro party next' hnext'
  obtain ⟨station, hstation, rfl⟩ := Option.map_eq_some_iff.mp hnext'
  obtain ⟨earlier, hearlier, hgrows⟩ := h.exists_station hstation
  exact ⟨earlier.nextCall, by rw [nextCall?, hearlier]; rfl, hgrows.nextCall⟩

/-- The stations and the ends are as they should be after a move. -/
theorem Typed.of_tasks (h : before.Typed asked) (hmoved : Moved before move incident after)
    (htyped : move.IsTyped) (hextends : Extends asked asked' after)
    (htasks : ∀ task ∈ after.tasks, task.IsTyped asked' after.nextCall?)
    (hends : ∀ jobEnd ∈ after.ends, jobEnd.2.IsProper) : after.Typed asked' where
  fresh := hextends.fresh
  inbound place desk hdesk command hcommand := by
    obtain ⟨earlier, hearlier, hgrows⟩ := hmoved.exists_desk hdesk
    refine Command.IsTyped.mono ?_ hextends.asked
    obtain hcommand | rfl | ⟨task, hmem, goOn, hquestion⟩ := hgrows.inbound command hcommand
    · exact h.inbound place earlier hearlier command hcommand
    · exact htyped.elim
    · exact (h.tasks task hmem).sends hquestion
  handed place desk hdesk entry hentry := by
    obtain ⟨earlier, hearlier, hgrows⟩ := hmoved.exists_desk hdesk
    obtain ⟨action, haction, hfits⟩ :
        ∃ action, asked place entry.1 = some action ∧ entry.2.Fits action := by
      obtain hentry | ⟨origin, harrived⟩ := hgrows.handed entry hentry
      · exact h.handed place earlier hearlier entry hentry
      · exact h.inbound place earlier hearlier _ harrived
    exact ⟨action, hextends.asked _ _ _ haction, hfits⟩
  executes party station hstation duty := by
    obtain ⟨earlier, hearlier, hgrows⟩ := hmoved.exists_station hstation
    rw [hgrows.execute]
    exact h.executes party earlier hearlier duty
  routers party station failure hstation hrouter := by
    obtain ⟨earlier, hearlier, hgrows⟩ := hmoved.exists_station hstation
    obtain hsame | hreason := hgrows.router
    · exact h.routers party earlier failure hearlier (hsame ▸ hrouter)
    · obtain hcrashed | ⟨task, hmem, router, failure', hactivity, heq⟩ := hreason _ hrouter
      · cases hcrashed
      · cases heq
        obtain ⟨duty, stage, hstands, -, -⟩ := h.tasks task hmem
        rw [hactivity] at hstands
        cases hstands with
        | done hproper => exact hproper
  tasks := htasks
  ends := hends

theorem isProper_of_loses {why : SessionError → Prop} (h : Loses why before after)
    (hends : ∀ jobEnd ∈ before.ends, jobEnd.2.IsProper) :
    ∀ jobEnd ∈ after.ends, jobEnd.2.IsProper := by
  intro jobEnd hmem
  obtain hold | haborted := h.ends jobEnd hmem
  · exact hends jobEnd hold
  · rw [haborted]
    exact JobEnd.isProper_aborted

/-- A task goes on after its question has been answered, and all tasks are as they should be. -/
theorem Typed.goesOn (h : before.Typed asked) {task later : Task (Except Failure α)}
    {effect : Effect} {goOn : effect.Answer → Activity (Except Failure α)}
    {answer : effect.Answer} (hmem : task ∈ before.tasks)
    (hasks : task.activity.question? = some ⟨effect, goOn⟩)
    (hanswers : (before.withoutTask task.id).perform? effect = some (middle, answer))
    (hlater : later.activity = goOn answer) (hcounts : CountsOn before (middle.queueTask later)) :
    ∃ asked', Extends asked asked' (middle.queueTask later) ∧
      (∀ other ∈ (middle.queueTask later).tasks,
        other.IsTyped asked' (middle.queueTask later).nextCall?) ∧
      middle.ends = before.ends := by
  obtain ⟨duty, stage, hactivity, hstage, hduty⟩ := h.tasks task hmem
  rw [perform?_withoutTask] at hanswers
  obtain ⟨⟨reached, answer⟩, hreached, heq⟩ := Option.map_eq_some_iff.mp hanswers
  cases heq
  obtain ⟨htasks, -, hends⟩ := keeps_perform? hreached
  have hnext : ((reached.withoutTask task.id).queueTask later).nextCall? = reached.nextCall? := by
    funext party
    rw [nextCall?, station?_queueTask, station?_withoutTask]
    rfl
  have hcounts' : CountsOn before reached := fun party => hnext ▸ hcounts party
  obtain ⟨asked', stage', hgoOn, hstage', hextends⟩ :=
    h.answered hstage (hactivity.asks hasks) hreached hcounts'
  refine ⟨asked', ⟨hextends.asked, fun place => hnext ▸ hextends.fresh place⟩,
    fun other hother => ?_, hends⟩
  obtain hother | hother := List.mem_append.mp hother
  · have hold : other ∈ before.tasks := htasks ▸ (List.mem_filter.mp hother).1
    exact (h.tasks other hold).mono hextends.asked fun _ => hcounts.eq_none
  · rw [List.mem_singleton.mp hother, hnext]
    exact ⟨duty, stage', hlater ▸ hgoOn, hstage', fun place call action heq =>
      hextends.asked _ _ _ (hduty place call action heq)⟩

/-- **Whatever a move does, all replies are to the actions that were asked.** -/
theorem Typed.moved (h : before.Typed asked) (hmoved : Moved before move incident after)
    (htyped : move.IsTyped) : ∃ asked', after.Typed asked' := by
  have hcounts := hmoved.countsOn
  have hextends := h.extends hcounts
  have hold (task : Task (Except Failure α)) (hmem : task ∈ before.tasks) :
      task.IsTyped asked after.nextCall? :=
    (h.tasks task hmem).mono (fun _ _ _ h => h) fun _ => hcounts.eq_none
  cases hmoved with
  | @answered _ task effect goOn middle answer mem asks answers =>
    obtain ⟨asked', hextends', htasks, hends⟩ := h.goesOn mem asks answers rfl hcounts
    exact ⟨asked', h.of_tasks (.answered mem asks answers) htyped hextends' htasks
      fun jobEnd hjobEnd => h.ends jobEnd (hends ▸ hjobEnd)⟩
  | @ended _ task number holder result mem done =>
    refine ⟨asked, h.of_tasks (.ended mem done) htyped hextends (fun other hother => ?_)
      fun jobEnd hjobEnd => ?_⟩
    · exact hold other ((List.mem_filter.mp hother).1)
    · obtain hjobEnd | hjobEnd := List.mem_append.mp hjobEnd
      · exact h.ends jobEnd hjobEnd
      · rw [List.mem_singleton.mp hjobEnd]
        obtain ⟨duty, stage, hstands, -, -⟩ := h.tasks task mem
        rw [done] at hstands
        rintro failure ⟨⟩
        cases hstands with
        | done hproper => exact hproper
  | @joined _ task router result mem done =>
    have hloses := loses_join (before.withoutTask task.id) router result
    refine ⟨asked, h.of_tasks (.joined mem done) htyped hextends (fun other hother => ?_)
      (isProper_of_loses hloses h.ends)⟩
    exact hold other (List.mem_filter.mp (hloses.tasks.subset hother)).1
  | @delegated place station desk origin call action hstation hdesk arrived =>
    refine ⟨asked, h.of_tasks (.delegated hstation hdesk arrived) htyped hextends
      (fun other hother => ?_) ?_⟩
    · obtain hother | hother := List.mem_append.mp hother
      · rw [taken, tasks_modifyDesk] at hother
        exact hold other hother
      · rw [List.mem_singleton.mp hother]
        refine ⟨some (place, call, action), .free, ?_, trivial, ?_⟩
        · have hspares (value : Reply) (hvalue : value.Fits action) :
              Effect.IsDue (some (place, call, action))
                (.send place (.result place.owner call value)) :=
            ⟨_, _, _, _, rfl, rfl, hvalue⟩
          exact Routine.stands_delegated Failure.isProper_disconnected hspares
            (h.executes _ station hstation _) _
        · rintro _ _ _ ⟨⟩
          exact h.inbound place desk hdesk _ arrived
    · intro jobEnd hjobEnd
      refine h.ends jobEnd ?_
      rwa [← ends_modifyDesk before place]
  | @resulted place desk origin call value hdesk arrived =>
    refine ⟨asked, h.of_tasks (.resulted hdesk arrived) htyped hextends (fun other hother => ?_) ?_⟩
    · rw [modifySlot, tasks_modifyDesk, taken, tasks_modifyDesk] at hother
      exact hold other hother
    · intro jobEnd hjobEnd
      rw [modifySlot, ends_modifyDesk, taken, ends_modifyDesk] at hjobEnd
      exact h.ends jobEnd hjobEnd
  | @started holder routine =>
    refine ⟨asked, h.of_tasks .started htyped hextends (fun other hother => ?_) h.ends⟩
    obtain hother | hother := List.mem_append.mp hother
    · exact hold other hother
    · rw [List.mem_singleton.mp hother]
      exact ⟨none, .free, htyped, trivial, fun _ _ _ h => by cases h⟩
  | pushed hpush => exact htyped.elim
  | @applied event => exact ⟨asked, h.of_tasks .applied htyped hextends hold h.ends⟩
  | lost hloses =>
    refine ⟨asked, h.of_tasks (.lost hloses) htyped hextends (fun other hother => ?_)
      (isProper_of_loses hloses h.ends)⟩
    exact hold other (hloses.tasks.subset hother)

/-- **All replies are to the actions that were asked, after any moves.** -/
theorem Typed.run? {moves : List (Move (Except Failure α))} (h : before.Typed asked)
    (htyped : ∀ move ∈ moves, move.IsTyped) (hrun : before.run? moves = some after) :
    ∃ asked', after.Typed asked' := by
  refine kept_of_run? (fun session => ∃ asked, session.Typed asked)
    (fun move hmem {_ _} h hmove => ?_) ⟨asked, h⟩ hrun
  obtain ⟨asked, h⟩ := h
  exact h.moved (moved_of_move? hmove) (htyped move hmem)

/-! ### Parties that resolve steps in their own ways -/

/-- When a session is opened, nothing has been asked. -/
theorem typed_opened (table : Table) (participants : List (PlayerId × Mode)) :
    (opened table (some (.atTable Routine.access))
      (participants.map fun p => (p.1, p.2.execute? p.1)) : Session (Except Failure α)).Typed
        fun _ _ => none := by
  have hexecute (id : PlayerId) (mode : Mode) (duty : Option (LinkEnd × CallId × Request)) :
      Routine.OrderlyExecutor (.typed duty) Failure.IsProper
        (Station.opened (mode.execute? id)).execute := by
    cases mode with
    | choosing chooser =>
      exact Routine.orderly_execute_choosing (Manners.lenient_typed duty) id chooser
    | crashing | byHand => exact Routine.orderly_execute_crashing trivial
  refine ⟨fun _ _ _ _ h => absurd h nofun, fun place desk h command hcommand => ?_,
    fun place desk h entry hentry => ?_, fun party station h duty => ?_,
    fun party station failure h hrouter => ?_, fun _ h => absurd h List.not_mem_nil,
    fun _ h => absurd h List.not_mem_nil⟩
  · rw [desk?_opened h] at hcommand
    exact absurd hcommand (Option.not_mem_none command)
  · rw [desk?_opened h] at hentry
    exact absurd hentry List.not_mem_nil
  · obtain ⟨_, rfl, rfl | ⟨_, hmem, rfl⟩⟩ := station?_opened h
    · exact Routine.orderly_execute_atTable (Manners.lenient_typed duty) fun _ => trivial
    · obtain ⟨participant, -, rfl⟩ := List.mem_map.mp hmem
      exact hexecute participant.1 participant.2 duty
  · obtain ⟨execute, rfl, -⟩ := station?_opened h
    rw [Station.opened] at hrouter
    dsimp only at hrouter
    split at hrouter <;> cases hrouter

end Session

/-- A job of a party that resolves steps in its own way: the walk of a program, or a turn. -/
inductive Routine.IsOwn : {α : Type} → Routine (Except Failure α) → Prop where
  | onParticipant {α : Type} (program : Program α) (me : PlayerId) (chooser : Chooser) :
    IsOwn (program.run (Routine.onParticipant me chooser)).run
  | onServer {α : Type} (program : Program α) (origin : PlayerId) (target : Option PlayerId) :
    IsOwn (program.run (Routine.onServer origin target)).run
  | turn : IsOwn Routine.access.driveTurn.run

/-- Whoever starts a job resolves steps in its own way, and nobody sends by hand. -/
def Move.IsOwn : Move (Except Failure α) → Prop
  | .start _ routine => routine.IsOwn
  | .send _ _ => False
  | _ => True

theorem Move.IsOwn.isTyped {move : Move (Except Failure α)} (h : move.IsOwn) : move.IsTyped := by
  have hlenient := Manners.lenient_typed none
  cases move with
  | start holder routine =>
    cases h with
    | onParticipant program me chooser =>
      exact Routine.orderly_run (Routine.orderly_onParticipant hlenient trivial chooser) program
    | onServer program origin target =>
      have hresolver := Routine.orderly_onServer hlenient (fun _ => trivial) origin target
      exact Routine.orderly_run hresolver program
    | turn => exact Routine.orderly_driveTurn hlenient fun _ => trivial
  | send place command => exact h.elim
  | _ => trivial

namespace Session

/-- Nowhere has a reply turned out to be of the wrong kind: not at the end of a job or of a walk,
and not where a router has stopped. -/
structure IsProper (session : Session (Except Failure α)) : Prop where
  ends : ∀ jobEnd ∈ session.ends, jobEnd.2.IsProper
  routers : ∀ party station failure, session.station? party = some station →
    station.router = .ended (.error (.failed failure)) → failure.IsProper
  walks : ∀ task ∈ session.tasks, ∀ router failure,
    task.activity = .walk router (Interaction.done (.error failure)) → failure.IsProper

theorem Typed.isProper {session : Session (Except Failure α)} (h : session.Typed asked) :
    session.IsProper := by
  refine ⟨h.ends, h.routers, fun task hmem router failure hactivity => ?_⟩
  obtain ⟨duty, stage, hstands, -, -⟩ := h.tasks task hmem
  rw [hactivity] at hstands
  cases hstands with
  | done hproper => exact hproper

/-- **No reply is ever of the wrong kind** between parties that resolve steps in their own ways. -/
theorem isProper_of_run? {table : Table} {participants : List (PlayerId × Mode)}
    {moves : List (Move (Except Failure α))} {session : Session (Except Failure α)}
    (hmoves : ∀ move ∈ moves, move.IsOwn)
    (hrun : (opened table (some (.atTable Routine.access))
      (participants.map fun p => (p.1, p.2.execute? p.1))).run? moves = some session) :
    session.IsProper := by
  obtain ⟨asked, htyped⟩ := (typed_opened table participants).run?
    (fun move hmem => (hmoves move hmem).isTyped) hrun
  exact htyped.isProper

end Session

end RoundTable
