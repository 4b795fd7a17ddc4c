import RoundTable.Proofs.Session.Anywhere
import RoundTable.Proofs.Session.Tokens

/-!
# Sessions in which nothing is lost

As long as nobody leaves, gives anything up or fails, every command that is sent arrives, every
action that arrives is taken up, and every result that arrives is waited for. So after every move
the tokens in the session are again one token for each call that waits.

## Main definitions

* `Session.Ready`: everybody is there and listens
* `Session.Tallied`, `Session.IsTallied`: the tokens are those of the calls that wait
* `Move.IsCalm`: nobody leaves or gives anything up
* `Session.HasFailed`: a router has stopped because of a failure

## Main results

* `Session.Tallied.stepped`, `Session.Tallied.moved`: the tokens are those of the calls that wait
  after every move, unless a router fails
* `Session.isTallied_of_run?`: and so they are in the end if no router has failed
-/

namespace RoundTable

open Function (update)

variable {ρ : Type} {place : LinkEnd} {call : CallId}

/-- A task stands as given. -/
def Task.StandsAt (task : Task ρ) (standing : Standing) : Prop := task.activity.StandsAt standing

/-- Nobody leaves, gives anything up or acts by hand; and whoever starts a job starts one that makes
calls, and besides asks about the table and the links only. -/
def Move.IsCalm : Move ρ → Prop
  | .step _ | .poll _ | .apply _ => True
  | .start _ routine => Routine.Stands (.below 3) (fun _ => True) routine .free
  | .cancel _ | .send _ _ | .take _ | .disconnect _ | .stopServer => False

namespace Session

variable {before middle after session : Session ρ} {standing : Nat → Option Standing}
  {account : LinkEnd → Option (CallId × Token)} {id : Nat}

/-! ### What has arrived, and who waits -/

/-- Who waits at an end, whether still there or not. -/
def waiter? (session : Session ρ) (place : LinkEnd) : Option Waiter :=
  (session.slot? place).bind Slot.waiter

theorem isSome_desk?_opposite (session : Session ρ) (place : LinkEnd) :
    (session.desk? place.opposite).isSome = (session.desk? place).isSome := by
  cases place <;> simp [desk?, LinkEnd.opposite]

theorem isSome_desk?_of_waiter? {waiter : Waiter} (h : session.waiter? place = some waiter) :
    (session.desk? place).isSome = true := by
  obtain ⟨slot, hslot, -⟩ := Option.bind_eq_some_iff.mp h
  obtain ⟨desk, hdesk, -⟩ := Option.map_eq_some_iff.mp hslot
  rw [hdesk]
  rfl

theorem live?_of_waiter? (h : session.waiter? place = some ⟨call, true⟩) :
    session.live? place = some call := by
  obtain ⟨slot, hslot, hwaiter⟩ := Option.bind_eq_some_iff.mp h
  rw [live?, hslot, Option.bind_some, Slot.live?, hwaiter]
  rfl

theorem arrived?_of_desk? (h : ∀ place, after.desk? place = before.desk? place) :
    after.arrived? = before.arrived? := by
  funext place
  rw [arrived?, h]
  rfl

theorem arrived?_modifySlot (session : Session ρ) (place : LinkEnd) (change : Slot → Slot) :
    (session.modifySlot place change).arrived? = session.arrived? := by
  funext other
  rw [arrived?, modifySlot, desk?_modifyDesk]
  split
  · rw [Option.bind_map]
    rfl
  · rfl

theorem arrived?_modifyDesk {command : Option Command}
    (hdesk : (session.desk? place).isSome = true) :
    (session.modifyDesk place fun desk => { desk with inbound := command }).arrived? =
      update session.arrived? place command := by
  funext other
  rw [arrived?, desk?_modifyDesk]
  rcases eq_or_ne other place with rfl | hne
  · obtain ⟨desk, hdesk⟩ := Option.isSome_iff_exists.mp hdesk
    rw [if_pos rfl, Function.update_self, hdesk]
    rfl
  · rw [if_neg hne, Function.update_of_ne hne]
    rfl

/-! ### Everybody is there -/

/-- At every end somebody listens, and its owner is there with a router at work. Actions are carried
out with calls from ends of lower rank only. -/
structure Ready (session : Session ρ) : Prop where
  listens : ∀ place, (session.desk? place).isSome = true → session.listens place = true
  isRouting : ∀ place : LinkEnd, (session.desk? place).isSome = true →
    session.isRouting place.owner = true
  isThere : ∀ place : LinkEnd, (session.desk? place).isSome = true →
    session.isThere place.owner = true
  executes : ∀ (place : LinkEnd) station, session.station? place.owner = some station →
    Routine.OrderlyExecutor (.below place.opposite.rank) anyFailure station.execute

namespace Ready

/-- A move that keeps the posture keeps everybody ready. -/
theorem moved (h : before.Ready) {move : Move ρ} {incident : Option Incident}
    (hmoved : Moved before move incident after) (hsame : SamePosture before after) :
    after.Ready := by
  have hdesk (place : LinkEnd) (hafter : (after.desk? place).isSome = true) :
      (before.desk? place).isSome = true := by
    obtain ⟨desk, hafter⟩ := Option.isSome_iff_exists.mp hafter
    obtain ⟨earlier, hbefore, -⟩ := hmoved.exists_desk hafter
    rw [hbefore]
    rfl
  refine ⟨?_, ?_, ?_, ?_⟩
  · intro place hafter
    rw [hsame.listens]
    exact h.listens place (hdesk place hafter)
  · intro place hafter
    rw [hsame.isRouting]
    exact h.isRouting place (hdesk place hafter)
  · intro place hafter
    rw [hsame.isThere]
    exact h.isThere place (hdesk place hafter)
  · intro place station hstation
    obtain ⟨earlier, hearlier, hgrows⟩ := hmoved.exists_station hstation
    rw [hgrows.execute]
    exact h.executes place earlier hearlier

/-- What is sent to somebody who is ready arrives, if there is room. -/
theorem push? (h : session.Ready) (hdesk : (session.desk? place).isSome = true)
    {command : Command} {sent : Bool} (hpush : session.push? place command = some (after, sent)) :
    sent = true ∧ session.arrived? place.opposite = none ∧
      after = session.modifyDesk place.opposite fun desk =>
        { desk with inbound := some command } := by
  have hopposite := hdesk
  rw [← isSome_desk?_opposite] at hopposite
  have hlistens := h.listens place.opposite hopposite
  obtain ⟨desk, hopposite⟩ := Option.isSome_iff_exists.mp hopposite
  rw [Session.listens, hopposite, Option.any_some] at hlistens
  simp only [Session.push?, hopposite, hlistens, if_true] at hpush
  split at hpush
  case isTrue => cases hpush
  case isFalse hempty =>
    cases hpush
    refine ⟨rfl, ?_, rfl⟩
    rw [arrived?, hopposite]
    exact Option.not_isSome_iff_eq_none.mp hempty

/-- What has arrived where somebody is ready is taken in. -/
theorem receive? (h : session.Ready) {command : Command}
    (harrived : session.arrived? place = some command) :
    (session.receive? place).isSome = true := by
  obtain ⟨desk, hdesk, hinbound⟩ := Option.bind_eq_some_iff.mp harrived
  have hsome : (session.desk? place).isSome = true := by
    rw [hdesk]
    rfl
  have hlistens := h.listens place hsome
  rw [Session.listens, hdesk, Option.any_some] at hlistens
  obtain ⟨station, hstation, hrunning⟩ := (Option.any_eq_true _ _).mp (h.isRouting place hsome)
  simp [Session.receive?, hstation, hdesk, hinbound, hrunning, hlistens]

end Ready

/-! ### Tokens of the calls that wait -/

/-- A router has stopped because of a failure. -/
def HasFailed (session : Session ρ) : Prop :=
  ∃ party error, session.router? party = some (.ended (.error error))

/-- Whoever waits is the caller of a call in the account, and is still there. -/
def HasCallers (account : LinkEnd → Option (CallId × Token)) (session : Session ρ) : Prop :=
  ∀ place, session.waiter? place = (account place).map fun entry => ⟨entry.1, true⟩

/-- Everybody is ready, the tasks stand as given, and the tokens that they and the ends have are
those of the calls that wait. -/
structure Tallied (standing : Nat → Option Standing)
    (account : LinkEnd → Option (CallId × Token)) (session : Session ρ) : Prop where
  ready : session.Ready
  fresh : ∀ id, session.spawned ≤ id → session.task? id = none
  tasks : ∀ id, Option.Rel Task.StandsAt (session.task? id) (standing id)
  walks : ∀ id task party, session.task? id = some task →
    task.activity.isWalkOf party = true → session.isRouting party = true
  callers : session.HasCallers account
  tally : Tally standing session.arrived? account

/-- The tokens are those of the calls that wait. -/
def IsTallied (session : Session ρ) : Prop := ∃ standing account, session.Tallied standing account

/-- A task that has been answered is put back. -/
def resumed (session : Session ρ) (task : Task ρ) (effect : Effect)
    (goOn : effect.Answer → Activity ρ) (answer : effect.Answer) : Session ρ :=
  (session.withoutTask task.id).queueTask
    ⟨task.id, goOn answer, pendingAfter task.pending effect answer⟩

namespace HasCallers

theorem of_desk? (h : before.HasCallers account)
    (hdesk : ∀ place, after.desk? place = before.desk? place) : after.HasCallers account := by
  intro place
  rw [waiter?, slot?, hdesk]
  exact h place

theorem waiter? (h : session.HasCallers account) {token : Token}
    (haccount : account place = some (call, token)) :
    session.waiter? place = some ⟨call, true⟩ := by
  rw [h, haccount]
  rfl

/-- A caller goes on to wait when the token is passed on. -/
theorem passed (h : session.HasCallers account) {token : Token}
    (haccount : account place = some (call, token)) (token' : Token) :
    session.HasCallers (update account place (some (call, token'))) := by
  intro other
  rw [h]
  rcases eq_or_ne other place with rfl | hne
  · rw [Function.update_self, haccount]
    rfl
  · rw [Function.update_of_ne hne]

/-- One end's caller begins or ceases to wait. -/
theorem modifySlot (h : session.HasCallers account) {slot : Slot}
    (hslot : session.slot? place = some slot) {change : Slot → Slot}
    (entry : Option (CallId × Token))
    (hwaiter : (change slot).waiter = entry.map fun entry => ⟨entry.1, true⟩) :
    (session.modifySlot place change).HasCallers (update account place entry) := by
  intro other
  rw [Session.waiter?, slot?_modifySlot]
  rcases eq_or_ne other place with rfl | hne
  · rw [if_pos rfl, Function.update_self, hslot]
    exact hwaiter
  · rw [if_neg hne, Function.update_of_ne hne]
    exact h other

/-- What has arrived does not matter. -/
theorem modifyDesk (h : session.HasCallers account) (place : LinkEnd) (command : Option Command) :
    (session.modifyDesk place fun desk => { desk with inbound := command }).HasCallers account := by
  intro other
  have hslot : (session.modifyDesk place fun desk => { desk with inbound := command }).slot? other =
      session.slot? other := slot?_modifyDesk session place other fun _ => rfl
  rw [Session.waiter?, hslot]
  exact h other

end HasCallers

namespace Tallied

theorem exists_standing (h : session.Tallied standing account) {task : Task ρ}
    (htask : session.task? id = some task) :
    ∃ stands, standing id = some stands ∧ task.activity.StandsAt stands := by
  have hrel := h.tasks id
  rw [htask] at hrel
  cases hstanding : standing id with
  | none =>
    rw [hstanding] at hrel
    cases hrel
  | some stands =>
    rw [hstanding] at hrel
    cases hrel with
    | some hstands => exact ⟨stands, rfl, hstands⟩

theorem exists_task (h : session.Tallied standing account) {stands : Standing}
    (hstanding : standing id = some stands) :
    ∃ task, session.task? id = some task ∧ task.activity.StandsAt stands := by
  have hrel := h.tasks id
  rw [hstanding] at hrel
  cases htask : session.task? id with
  | none =>
    rw [htask] at hrel
    cases hrel
  | some task =>
    rw [htask] at hrel
    cases hrel with
    | some hstands => exact ⟨task, rfl, hstands⟩

theorem standing_spawned (h : session.Tallied standing account) :
    standing session.spawned = none := by
  cases hstanding : standing session.spawned with
  | none => rfl
  | some stands =>
    obtain ⟨task, htask, -⟩ := h.exists_task hstanding
    cases (h.fresh _ (Nat.le_refl _)).symm.trans htask

theorem lt_spawned (h : session.Tallied standing account) {task : Task ρ}
    (found : session.task? id = some task) : id < session.spawned := by
  by_contra hge
  rw [h.fresh id (Nat.le_of_not_lt hge)] at found
  cases found

/-- A token is at an end that there is. -/
theorem isSome_desk? (h : session.Tallied standing account) {token : Token}
    (haccount : account place = some (call, token)) : (session.desk? place).isSome = true :=
  isSome_desk?_of_waiter? (h.callers.waiter? haccount)

/-- No task goes on, ends or begins. -/
theorem idle (h : before.Tallied standing account) (hready : after.Ready)
    (hsame : SamePosture before after) {account' : LinkEnd → Option (CallId × Token)}
    (htasks : after.tasks = before.tasks) (hspawned : after.spawned = before.spawned)
    (hcallers : after.HasCallers account')
    (htally : Tally standing after.arrived? account') : after.Tallied standing account' := by
  have htask (id : Nat) : after.task? id = before.task? id := by
    rw [task?, htasks]
    rfl
  refine ⟨hready, ?_, ?_, ?_, hcallers, htally⟩
  · intro id hid
    rw [htask]
    exact h.fresh id (hspawned ▸ hid)
  · intro id
    rw [htask]
    exact h.tasks id
  · intro id task party hafter hmine
    rw [htask] at hafter
    rw [hsame.isRouting]
    exact h.walks id task party hafter hmine

/-- Nothing happens to tasks and ends. -/
theorem spared (h : before.Tallied standing account) (hready : after.Ready)
    (hsame : SamePosture before after) (htasks : after.tasks = before.tasks)
    (hspawned : after.spawned = before.spawned)
    (hdesk : ∀ place, after.desk? place = before.desk? place) : after.Tallied standing account := by
  refine h.idle hready hsame htasks hspawned (h.callers.of_desk? hdesk) ?_
  rw [arrived?_of_desk? hdesk]
  exact h.tally

/-- One task goes on, ends or begins, and the tokens are kept or passed on. -/
theorem replaced (h : before.Tallied standing account) (hready : after.Ready)
    (hsame : SamePosture before after) {new : Option (Task ρ)} {stands : Option Standing}
    {account' : LinkEnd → Option (CallId × Token)}
    (htask : ∀ other, after.task? other = if other = id then new else before.task? other)
    (hspawned : before.spawned ≤ after.spawned) (hid : id < after.spawned)
    (hnew : Option.Rel Task.StandsAt new stands)
    (hwalk : ∀ task ∈ new, ∀ party, task.activity.isWalkOf party = true →
      before.isRouting party = true)
    (hcallers : after.HasCallers account')
    (htally : Tally (update standing id stands) after.arrived? account') :
    after.Tallied (update standing id stands) account' := by
  refine ⟨hready, ?_, ?_, ?_, hcallers, htally⟩
  · intro other hother
    have hne : other ≠ id := by omega
    rw [htask, if_neg hne]
    exact h.fresh other (Nat.le_trans hspawned hother)
  · intro other
    rw [htask]
    rcases eq_or_ne other id with rfl | hne
    · rwa [if_pos rfl, Function.update_self]
    · rw [if_neg hne, Function.update_of_ne hne]
      exact h.tasks other
  · intro other task party hafter hmine
    rw [hsame.isRouting]
    rw [htask] at hafter
    split at hafter
    · exact hwalk task hafter party hmine
    · exact h.walks other task party hafter hmine

/-- A task whose question is answered goes on as it stands then. -/
theorem goesOn (h : before.Tallied standing account) {task : Task ρ} {effect : Effect}
    {goOn : effect.Answer → Activity ρ} {answer : effect.Answer}
    (found : before.task? task.id = some task)
    (asks : task.activity.question? = some ⟨effect, goOn⟩)
    (hperform : before.perform? effect = some (middle, answer)) {stands : Standing}
    {account' : LinkEnd → Option (CallId × Token)} (hstands : (goOn answer).StandsAt stands)
    (hcallers : middle.HasCallers account')
    (htally : Tally (update standing task.id (some stands)) middle.arrived? account') :
    (middle.resumed task effect goOn answer).IsTallied := by
  have answers : (before.withoutTask task.id).perform? effect =
      some (middle.withoutTask task.id, answer) := by
    rw [perform?_withoutTask, hperform]
    rfl
  have hsame : SamePosture before (middle.resumed task effect goOn answer) :=
    (SamePosture.withoutTask before task.id).trans
      ((SamePosture.perform? answers).trans (.queueTask _ _))
  have hmoved : Moved before (.step (.advance task.id)) _
      (middle.resumed task effect goOn answer) := .answered (mem_of_task? found).1 asks answers
  have hdesk (place : LinkEnd) :
      (middle.resumed task effect goOn answer).desk? place = middle.desk? place := by
    rw [resumed, desk?_queueTask, desk?_withoutTask]
  have hnew :
      Task.StandsAt ⟨task.id, goOn answer, pendingAfter task.pending effect answer⟩ stands :=
    hstands
  obtain ⟨htasks, hspawned, -⟩ := keeps_perform? hperform
  have hlt := h.lt_spawned found
  refine ⟨_, account', h.replaced (h.ready.moved hmoved hsame) hsame (fun other => ?_)
    (Nat.le_of_eq hspawned.symm) (hspawned ▸ hlt) (.some hnew) ?_ (hcallers.of_desk? hdesk) ?_⟩
  · rw [resumed, task?_queueTask, task?_withoutTask]
    rcases eq_or_ne other task.id with rfl | hne
    · simp
    · rw [if_neg hne, if_neg hne, if_neg hne.symm, Option.or_none, task?, htasks]
      rfl
  · rintro _ ⟨⟩ party hmine
    refine h.walks task.id task party found ?_
    rwa [← Activity.isWalkOf_of_question? asks answer party]
  · rw [arrived?_of_desk? hdesk]
    exact htally

/-- Where nobody waits, there is no token. -/
theorem account_of_live? (h : session.Tallied standing account)
    (hlive : session.live? place = none) : account place = none := by
  cases haccount : account place with
  | none => rfl
  | some entry => cases hlive.symm.trans (live?_of_waiter? (h.callers.waiter? haccount))

/-- A task that is answered goes on with the tokens that it has, if the ends are as they were. -/
theorem kept (h : before.Tallied standing account) {task : Task ρ} {effect : Effect}
    {goOn : effect.Answer → Activity ρ} {answer : effect.Answer} {stands stands' : Standing}
    (found : before.task? task.id = some task)
    (asks : task.activity.question? = some ⟨effect, goOn⟩)
    (hperform : before.perform? effect = some (middle, answer))
    (hdesk : ∀ place, middle.desk? place = before.desk? place)
    (hstanding : standing task.id = some stands) (hstands : (goOn answer).StandsAt stands')
    (hunsent : stands'.unsent? = stands.unsent?) (hdebt : stands'.debt = stands.debt) :
    (middle.resumed task effect goOn answer).IsTallied := by
  refine h.goesOn found asks hperform hstands (h.callers.of_desk? hdesk) ?_
  rw [arrived?_of_desk? hdesk]
  refine h.tally.advanced ?_ ?_
  · rw [hstanding]
    exact hunsent
  · rw [hstanding]
    exact hdebt

/-- **A task that is answered keeps its tokens or passes them on.** -/
theorem answered (h : before.Tallied standing account) {task : Task ρ} {effect : Effect}
    {goOn : effect.Answer → Activity ρ} {answer : effect.Answer}
    (found : before.task? task.id = some task)
    (asks : task.activity.question? = some ⟨effect, goOn⟩)
    (hperform : before.perform? effect = some (middle, answer)) :
    (middle.resumed task effect goOn answer).IsTallied := by
  obtain ⟨stands, hstanding, hstands⟩ := h.exists_standing found
  cases hstands.asksAt asks with
  | quiet hquiet hnext =>
    refine h.kept found asks hperform (fun place => ?_) hstanding (hnext answer) rfl rfl
    cases effect with
    | observe | apply | applyOr | confirm | isLinked =>
      cases hperform
      cases place <;> rfl
    | _ => exact hquiet.elim
  | number hnext =>
    refine h.kept found asks hperform (fun place => ?_) hstanding (hnext answer) rfl rfl
    cases hperform
    exact desk?_modifyStation before _ _ place
  | await hreply =>
    refine h.kept found asks hperform (fun place => ?_) hstanding (hreply answer) rfl rfl
    rw [perform?] at hperform
    split at hperform
    · cases hperform
      rfl
    · obtain ⟨_, -, heq⟩ := Option.map_eq_some_iff.mp hperform
      cases heq
      rfl
  | @register debt place call action _ hok herror =>
    obtain ⟨failure, rfl, rfl⟩ | ⟨rfl, slot, hslot, hlive, rfl⟩ := register_cases hperform
    · exact h.kept found asks hperform (fun _ => rfl) hstanding (herror failure) rfl rfl
    · have hfree : account place = none := by
        refine h.account_of_live? ?_
        rw [live?, hslot]
        exact hlive
      refine h.goesOn found asks hperform hok
        (h.callers.modifySlot hslot (some (call, .unsent task.id)) rfl) ?_
      rw [arrived?_modifySlot]
      exact h.tally.registered hstanding hfree
  | @send debt place call action _ hsent =>
    have haccount : account place = some (call, .unsent task.id) := by
      refine (h.tally place call (.unsent task.id)).mp ?_
      rw [Token.At, hstanding]
      rfl
    have hdesk := h.isSome_desk? haccount
    obtain ⟨rfl, hempty, rfl⟩ := h.ready.push? hdesk hperform
    refine h.goesOn found asks hperform hsent
      ((h.callers.passed haccount .asked).modifyDesk place.opposite _) ?_
    rw [arrived?_modifyDesk (by rwa [isSome_desk?_opposite])]
    exact h.tally.asked hstanding hempty
  | @conclude place call value _ hsent =>
    have haccount : account place.opposite = some (call, .walked task.id) := by
      refine (h.tally place.opposite call (.walked task.id)).mp ?_
      rw [Token.At, hstanding, LinkEnd.opposite_opposite]
      rfl
    have hdesk := h.isSome_desk? haccount
    obtain ⟨rfl, hempty, rfl⟩ := h.ready.push? (by rwa [isSome_desk?_opposite] at hdesk) hperform
    refine h.goesOn found asks hperform hsent
      ((h.callers.passed haccount .answered).modifyDesk place.opposite _) ?_
    rw [arrived?_modifyDesk hdesk]
    refine h.tally.concluded ?_ hempty
    rw [hstanding, LinkEnd.opposite_opposite]

/-- A task that is over has no token, and leaves. -/
theorem left (h : before.Tallied standing account) {task : Task ρ}
    (found : before.task? task.id = some task) (hover : task.activity.question? = none)
    (hready : after.Ready) (hsame : SamePosture before after)
    (htasks : after.tasks = (before.withoutTask task.id).tasks)
    (hspawned : after.spawned = before.spawned)
    (hdesk : ∀ place, after.desk? place = before.desk? place) : after.IsTallied := by
  obtain ⟨stands, hstanding, hstands⟩ := h.exists_standing found
  have hfree : stands = ⟨none, .free⟩ := by
    rcases hstands.idle_or_asks with hfree | ⟨effect, goOn, hquestion⟩
    · exact hfree
    · cases hover.symm.trans hquestion
  have hlt := h.lt_spawned found
  refine ⟨_, account, h.replaced hready hsame (fun other => ?_) (Nat.le_of_eq hspawned.symm)
    (hspawned ▸ hlt) .none nofun (h.callers.of_desk? hdesk) ?_⟩
  · have hwithout := task?_withoutTask before task.id other
    rwa [task?, ← htasks] at hwithout
  · rw [arrived?_of_desk? hdesk]
    refine h.tally.advanced ?_ ?_
    · rw [hstanding, hfree]
      rfl
    · rw [hstanding, hfree]
      rfl

/-- A task begins that stands as given. -/
theorem begun (h : before.Tallied standing account) {activity : Activity ρ} {stands : Standing}
    {account' : LinkEnd → Option (CallId × Token)} (hready : (middle.spawn activity).Ready)
    (hsame : SamePosture before (middle.spawn activity)) (htasks : middle.tasks = before.tasks)
    (hspawned : middle.spawned = before.spawned) (hstands : activity.StandsAt stands)
    (hwalk : ∀ party, activity.isWalkOf party = true → before.isRouting party = true)
    (hcallers : middle.HasCallers account')
    (htally : Tally (update standing before.spawned (some stands)) middle.arrived? account') :
    (middle.spawn activity).IsTallied := by
  have hnew : Task.StandsAt ⟨middle.spawned, activity, none⟩ stands := hstands
  have hcount : (middle.spawn activity).spawned = before.spawned + 1 := congrArg (· + 1) hspawned
  have hlt : before.spawned < (middle.spawn activity).spawned := by omega
  refine ⟨_, account', h.replaced hready hsame (fun other => ?_) (Nat.le_of_lt hlt) hlt
    (.some hnew) ?_ (hcallers.of_desk? (desk?_spawn middle activity)) ?_⟩
  · have hmiddle : task? { middle with spawned := middle.spawned + 1 } other =
        before.task? other := by
      rw [task?, htasks]
      rfl
    rw [spawn, task?_queueTask, hmiddle, hspawned]
    rcases eq_or_ne other before.spawned with rfl | hne
    · rw [h.fresh _ (Nat.le_refl _), Option.none_or, if_pos rfl]
    · rw [if_neg hne.symm, if_neg hne, Option.or_none]
  · rintro _ ⟨⟩ party hmine
    exact hwalk party hmine
  · rw [arrived?_of_desk? (desk?_spawn middle activity)]
    exact htally

/-- **An action that arrives is taken up by a walk.** -/
theorem delegated (h : before.Tallied standing account) {station : Station} {desk : Desk}
    {origin : Party} {action : Request} (hstation : before.station? place.owner = some station)
    (hdesk : before.desk? place = some desk)
    (harrived : desk.inbound = some (.delegate origin call action)) :
    ((before.taken place).spawn (.walk place.owner (Routine.delegated station.execute place
      (attributed place origin) call action).run)).IsTallied := by
  have hmoved := Moved.delegated hstation hdesk harrived
  have hsame : SamePosture before ((before.taken place).spawn (.walk place.owner
      (Routine.delegated station.execute place (attributed place origin) call action).run)) :=
    (SamePosture.taken before place).trans (.spawn _ _)
  have hsome : (before.desk? place).isSome = true := by
    rw [hdesk]
    rfl
  have hhere : before.arrived? place.opposite.opposite = some (.delegate origin call action) := by
    rw [LinkEnd.opposite_opposite, arrived?, hdesk]
    exact harrived
  have haccount : account place.opposite = some (call, .asked) := by
    refine (h.tally place.opposite call .asked).mp ?_
    rw [Token.At, hhere]
    rfl
  have hstands : Activity.StandsAt ⟨some (place, call), .free⟩ (.walk place.owner
      (Routine.delegated station.execute place (attributed place origin) call action).run :
        Activity ρ) := by
    obtain ⟨next, hrun, hnext⟩ := Routine.run_delegated station.execute place
      (attributed place origin) call action
    rw [hrun]
    have horderly := h.ready.executes place station hstation (attributed place origin) action
    exact .walk (horderly.mono fun _ _ => trivial) trivial fun result => ⟨_, hnext result⟩
  refine h.begun (h.ready.moved hmoved hsame) hsame (tasks_modifyDesk before place _)
    (spawned_modifyDesk before place _) hstands (fun party hmine => ?_)
    ((h.callers.passed haccount (.walked before.spawned)).modifyDesk place _) ?_
  · rw [← of_decide_eq_true hmine]
    exact h.ready.isRouting place hsome
  · have hstarted := h.tally.started h.standing_spawned hhere
    rwa [LinkEnd.opposite_opposite, ← arrived?_modifyDesk hsome] at hstarted

/-- **A result that arrives is waited for.** -/
theorem resulted (h : before.Tallied standing account) {desk : Desk} {origin : Party}
    {value : Reply} (hdesk : before.desk? place = some desk)
    (harrived : desk.inbound = some (.result origin call value)) :
    ((before.taken place).modifySlot place fun slot => (slot.deliver call value).1).IsTallied := by
  have hmoved := Moved.resulted hdesk harrived
  have hsame : SamePosture before
      ((before.taken place).modifySlot place fun slot => (slot.deliver call value).1) :=
    (SamePosture.taken before place).trans (.modifySlot _ place _)
  have hsome : (before.desk? place).isSome = true := by
    rw [hdesk]
    rfl
  have hhere : before.arrived? place = some (.result origin call value) := by
    rw [arrived?, hdesk]
    exact harrived
  have hslot : (before.taken place).slot? place = some desk.slot := by
    rw [slot?_taken, slot?, hdesk]
    rfl
  have haccount : account place = some (call, .answered) := by
    refine (h.tally place call .answered).mp ?_
    rw [Token.At, hhere]
    rfl
  have hwaiter : desk.slot.waiter = some ⟨call, true⟩ := by
    have hwaiter := h.callers.waiter? haccount
    rwa [waiter?, slot?, hdesk] at hwaiter
  have hgone : ((desk.slot.deliver call value).1).waiter = none := by
    simp [Slot.deliver, hwaiter]
  refine ⟨standing, _, h.idle (h.ready.moved hmoved hsame) hsame ?_ ?_
    ((h.callers.modifyDesk place none).modifySlot hslot none hgone) ?_⟩
  · rw [modifySlot, tasks_modifyDesk, taken, tasks_modifyDesk]
  · rw [modifySlot, spawned_modifyDesk, taken, spawned_modifyDesk]
  · rw [arrived?_modifySlot, taken, arrived?_modifyDesk hsome]
    exact h.tally.delivered hhere

/-- A router that stops sits at no end and has no walks. -/
theorem stopped (h : before.Tallied standing account) {party : Party}
    (deaf : ∀ place ∈ before.endsOf party, (before.desk? place).any Desk.isListening = false)
    (idle : ∀ task ∈ before.tasks, task.activity.isWalkOf party = false) :
    (before.modifyStation party fun station =>
      { station with router := .ended (.ok ()) }).IsTallied := by
  have hdesk := desk?_modifyStation before party fun station =>
    { station with router := .ended (.ok ()) }
  have howner (place : LinkEnd) (hsome : (before.desk? place).isSome = true) :
      place.owner ≠ party := by
    intro howner
    have hlistens := h.ready.listens place hsome
    cases (deaf place (mem_endsOf.mpr ⟨howner, hsome⟩)).symm.trans hlistens
  have hrouting {other : Party} (hne : other ≠ party) (hother : before.isRouting other = true) :
      (before.modifyStation party fun station =>
        { station with router := .ended (.ok ()) }).isRouting other = true := by
    refine isRouting_of_router? ?_
    rw [router?_modifyStation, if_neg hne]
    exact router?_of_isRouting hother
  have htask (id : Nat) : (before.modifyStation party fun station =>
      { station with router := .ended (.ok ()) }).task? id = before.task? id := by
    rw [task?, tasks_modifyStation]
    rfl
  refine ⟨standing, account, ⟨?_, ?_, ?_, ?_⟩, ?_, ?_, ?_, h.callers.of_desk? hdesk, ?_⟩
  · intro place hsome
    rw [hdesk] at hsome
    rw [listens_modifyStation]
    exact h.ready.listens place hsome
  · intro place hsome
    rw [hdesk] at hsome
    exact hrouting (howner place hsome) (h.ready.isRouting place hsome)
  · intro place hsome
    rw [hdesk] at hsome
    rw [isThere_modifyStation _ _ (howner place hsome)]
    exact h.ready.isThere place hsome
  · intro place station hstation
    rw [station?_modifyStation] at hstation
    split at hstation
    · obtain ⟨earlier, hearlier, rfl⟩ := Option.map_eq_some_iff.mp hstation
      exact h.ready.executes place earlier hearlier
    · exact h.ready.executes place station hstation
  · intro id hid
    rw [spawned_modifyStation] at hid
    rw [htask]
    exact h.fresh id hid
  · intro id
    rw [htask]
    exact h.tasks id
  · intro id task other found hmine
    rw [htask] at found
    refine hrouting ?_ (h.walks id task other found hmine)
    rintro rfl
    cases (idle task (mem_of_task? found).1).symm.trans hmine
  · rw [arrived?_of_desk? hdesk]
    exact h.tally

/-- **After a step the tokens are again those of the calls that wait**, unless a router fails. -/
theorem stepped (h : before.Tallied standing account) {label : Label}
    (hstepped : Stepped before label after) :
    after.IsTallied ∨ after.HasFailed := by
  cases hstepped with
  | @answered task effect goOn middle answer found asks answers =>
    rw [perform?_withoutTask] at answers
    obtain ⟨⟨plain, answer'⟩, hperform, heq⟩ := Option.map_eq_some_iff.mp answers
    cases heq
    exact .inl (h.answered found asks hperform)
  | @ended task number holder result found done =>
    have hsame : SamePosture before
        ((before.withoutTask task.id).endJob number (.result result)) :=
      (SamePosture.withoutTask before task.id).trans (.endJob _ number _)
    have hmoved : Moved before (.step (.advance task.id)) none _ :=
      .ended (mem_of_task? found).1 done
    refine .inl (h.left found ?_ (h.ready.moved hmoved hsame) hsame rfl rfl fun place => ?_)
    · rw [done]
      rfl
    · rw [desk?_endJob, desk?_withoutTask]
  | @brokeDown task number holder next found crashes =>
    obtain ⟨stands, -, hstands⟩ := h.exists_standing found
    rw [crashes] at hstands
    cases hstands.asksAt rfl with
    | quiet hquiet => exact hquiet.elim
  | @broken task router next found crashes =>
    obtain ⟨stands, -, hstands⟩ := h.exists_standing found
    rw [crashes] at hstands
    cases hstands.asksAt rfl with
    | quiet hquiet => exact hquiet.elim
  | @joined task router result found done =>
    have hsame := SamePosture.withoutTask before task.id
    have hover : task.activity.question? = none := by
      rw [done]
      rfl
    have hquiet (hmoved : Moved before (.step (.join task.id)) none (before.withoutTask task.id)) :
        (before.withoutTask task.id).IsTallied :=
      h.left found hover (h.ready.moved hmoved hsame) hsame rfl rfl
        (desk?_withoutTask before task.id)
    have hmoved : Moved before (.step (.join task.id)) none
        ((before.withoutTask task.id).join router result) := .joined (mem_of_task? found).1 done
    cases result with
    | ok => exact .inl (hquiet hmoved)
    | error failure =>
      rw [join.eq_def] at hmoved ⊢
      dsimp only at hmoved ⊢
      split at hmoved
      case isFalse hfatal =>
        rw [if_neg hfatal]
        exact .inl (hquiet hmoved)
      case isTrue hfatal =>
        rw [if_pos hfatal]
        have hrouting : before.isRouting router = true :=
          h.walks task.id task router found (by rw [done]; exact decide_eq_true rfl)
        refine .inr ⟨router, .failed failure, ?_⟩
        rw [(shuts_shutRouter _ router _).2, hsame.router, router?_of_isRouting hrouting]
        rfl
  | delegated hstation _ hdesk _ arrived => exact .inl (h.delegated hstation hdesk arrived)
  | resulted _ hdesk _ arrived => exact .inl (h.resulted hdesk arrived)
  | @hungUp place desk hdesk routing listening silent =>
    have hsome : (before.desk? place.opposite).isSome = true := by
      rw [isSome_desk?_opposite, hdesk]
      rfl
    have hthere := h.ready.isThere place.opposite hsome
    rw [speaks, Bool.or_eq_false_iff] at silent
    cases silent.1.symm.trans hthere
  | stopped _ deaf idle => exact .inl (h.stopped deaf idle)

end Tallied

/-! ### Sessions that nobody disturbs -/

theorem HasFailed.moved {move : Move ρ} (h : before.HasFailed)
    (hmove : before.move? move = some after) : after.HasFailed := by
  obtain ⟨party, error, hrouter⟩ := h
  have hnot : before.isRouting party = false := by
    refine Bool.eq_false_iff.mpr fun hrouting => ?_
    cases hrouter.symm.trans (router?_of_isRouting hrouting)
  cases reposed_of_move? hmove with
  | same hsame =>
    refine ⟨party, error, ?_⟩
    rw [hsame.router]
    exact hrouter
  | hungUp =>
    refine ⟨party, error, ?_⟩
    rw [router?, hungUp, station?_modifyDesk]
    exact hrouter
  | @stopped other routing =>
    refine ⟨party, error, ?_⟩
    have hne : party ≠ other := by
      rintro rfl
      cases hnot.symm.trans routing
    rw [router?_modifyStation, if_neg hne]
    exact hrouter
  | @shut _ other hshuts hcut =>
    rcases eq_or_ne party other with rfl | hne
    · cases hcut with
      | failed hfailed => exact ⟨party, _, hfailed⟩
      | aborted routing => cases hnot.symm.trans routing
      | kept _ hkept => exact ⟨party, error, hkept.trans hrouter⟩
    · exact ⟨party, error, (hshuts.router party hne).trans hrouter⟩

theorem exists_poll (session : Session ρ) (number : Nat) :
    ∃ ends, (session.poll number).1 = { session with ends } := by
  rw [poll]
  split
  · exact ⟨_, rfl⟩
  · split
    · exact ⟨_, rfl⟩
    · exact ⟨_, rfl⟩

/-- **After a move the tokens are again those of the calls that wait**, unless a router fails. -/
theorem Tallied.moved (h : before.Tallied standing account) {move : Move ρ} (hcalm : move.IsCalm)
    (hmove : before.move? move = some after) :
    after.IsTallied ∨ after.HasFailed := by
  have hmoved := moved_of_move? hmove
  cases move with
  | step label => exact h.stepped (stepped_of_step? hmove)
  | start holder routine =>
    cases hmove
    have hdesk (place : LinkEnd) :
        desk? { before with started := before.started + 1 } place = before.desk? place := by
      cases place <;> rfl
    have hsame : SamePosture before (before.start holder routine).1 :=
      (SamePosture.of_views hdesk fun party => by cases party <;> rfl).trans (.spawn _ _)
    have hstands : Activity.StandsAt ⟨none, .free⟩ (.job before.started holder routine) :=
      .job hcalm trivial
    refine .inl (h.begun (h.ready.moved hmoved hsame) hsame rfl rfl hstands nofun
      (h.callers.of_desk? hdesk) ?_)
    rw [arrived?_of_desk? hdesk]
    refine h.tally.advanced ?_ ?_
    · rw [h.standing_spawned]
      rfl
    · rw [h.standing_spawned]
      rfl
  | poll number =>
    cases hmove
    obtain ⟨ends, heq⟩ := exists_poll before number
    have hdesk (place : LinkEnd) : (before.poll number).1.desk? place = before.desk? place := by
      rw [heq]
      cases place <;> rfl
    refine .inl ⟨standing, account, h.spared (h.ready.moved hmoved (.poll before number))
      (.poll before number) ?_ ?_ hdesk⟩
    · rw [heq]
    · rw [heq]
  | apply event =>
    cases hmove
    have hdesk (place : LinkEnd) :
        (before.applyEvent event).1.desk? place = before.desk? place := by
      cases place <;> rfl
    have hsame : SamePosture before (before.applyEvent event).1 :=
      .of_views hdesk fun party => by cases party <;> rfl
    exact .inl ⟨standing, account, h.spared (h.ready.moved hmoved hsame) hsame rfl rfl hdesk⟩
  | cancel | send | take | disconnect | stopServer => exact hcalm.elim

/-! ### Sessions from the beginning -/

/-- Who resolves actions in one of the ways of server and participants makes calls from ends of
lower rank only. -/
theorem executes_session {company : Company} {table : Table} {station : Station}
    (hstation : (company.session table : Session ρ).station? place.owner = some station) :
    Routine.OrderlyExecutor (.below place.opposite.rank) anyFailure station.execute := by
  have hlenient := Manners.lenient_below place.opposite.rank
  cases place with
  | ofServer id =>
    cases hstation
    exact Routine.orderly_execute_atTable hlenient fun _ => Nat.one_lt_two
  | ofParticipant id =>
    rw [LinkEnd.owner, station?, company.link?_session] at hstation
    obtain ⟨link, hlink, rfl⟩ := Option.map_eq_some_iff.mp hstation
    obtain ⟨chooser, -, rfl⟩ := Option.map_eq_some_iff.mp hlink
    exact Routine.orderly_execute_choosing hlenient id chooser

/-- When a session is opened, nobody waits and there are no tokens. -/
theorem isTallied_session (company : Company) (table : Table) :
    (company.session table : Session ρ).IsTallied := by
  have hidle : (company.session table : Session ρ).IsIdle company :=
    company.isIdle_session table
  have htask (id : Nat) : (company.session table : Session ρ).task? id = none := rfl
  have hopened {place : LinkEnd} {desk : Desk}
      (hdesk : (company.session table : Session ρ).desk? place = some desk) : desk = .opened :=
    desk?_opened hdesk
  refine ⟨fun _ => none, fun _ => none, ⟨?_, ?_, ?_, ?_⟩, ?_, ?_, ?_, ?_, ?_⟩
  · intro place hsome
    obtain ⟨desk, hdesk⟩ := Option.isSome_iff_exists.mp hsome
    rw [listens, hdesk, hopened hdesk]
    rfl
  · intro place hsome
    obtain ⟨station, hstation⟩ :=
      Option.isSome_iff_exists.mp (isSome_station?_owner _ place hsome)
    rw [isRouting, hstation]
    exact (hidle.station _ station hstation).2.1
  · intro place hsome
    obtain ⟨station, hstation⟩ :=
      Option.isSome_iff_exists.mp (isSome_station?_owner _ place hsome)
    rw [isThere, hstation]
    exact (hidle.station _ station hstation).1
  · intro place station hstation
    exact executes_session hstation
  · intro id _
    exact htask id
  · intro id
    rw [htask]
    exact .none
  · intro id task party found
    cases (htask id).symm.trans found
  · intro place
    cases hdesk : (company.session table : Session ρ).desk? place with
    | none => rw [waiter?, slot?, hdesk]; rfl
    | some desk => rw [waiter?, slot?, hdesk, hopened hdesk]; rfl
  · have harrived : (company.session table : Session ρ).arrived? = fun _ => none := by
      funext place
      cases hdesk : (company.session table : Session ρ).desk? place with
      | none => rw [arrived?, hdesk]; rfl
      | some desk => rw [arrived?, hdesk, hopened hdesk]; rfl
    rw [harrived]
    exact .empty

theorem IsTallied.run? {moves : List (Move ρ)} (h : before.IsTallied ∨ before.HasFailed)
    (hcalm : ∀ move ∈ moves, move.IsCalm) (hrun : before.run? moves = some after) :
    after.IsTallied ∨ after.HasFailed := by
  refine kept_of_run? (fun session => session.IsTallied ∨ session.HasFailed)
    (fun move hmem {_ _} h hmove => ?_) h hrun
  rcases h with ⟨standing, account, htallied⟩ | hfailed
  · exact htallied.moved (hcalm move hmem) hmove
  · exact .inr (hfailed.moved hmove)

/-- **In the end the tokens are those of the calls that wait**, if nobody has left or given anything
up, and no router has failed. -/
theorem isTallied_of_run? {company : Company} {table : Table} {moves : List (Move ρ)}
    (hcalm : ∀ move ∈ moves, move.IsCalm)
    (hrun : (company.session table).run? moves = some session) (hsound : ¬session.HasFailed) :
    session.IsTallied :=
  (IsTallied.run? (.inl (isTallied_session company table)) hcalm hrun).resolve_right hsound

end Session

end RoundTable
