import RoundTable.Proofs.Session.Ledger

/-!
# Where things come from

Nothing comes from nowhere in a session. A command that is on its way has been sent from the other
end, a result that was handed over has arrived, a number is only followed by greater ones, and a
router that has failed was told of a failure by one of its walks.

## Main definitions

* `Session.IsSent`: a command that is about to be sent
* `Station.Grows`, `Desk.Grows`: what a move can do to a station and to an end

## Main results

* `Session.Moved.exists_station`, `Session.Moved.exists_desk`: no move does more than this
-/

namespace RoundTable

/-- Numbers are given out, and a router may stop; if because of an error, then one of those
given. -/
structure Station.Grows (why : SessionError → Prop) (before after : Station) : Prop where
  nextCall : before.nextCall ≤ after.nextCall
  execute : after.execute = before.execute
  router : after.router = before.router ∨ ∀ error, after.router = .ended (.error error) → why error

theorem Station.Loses.grows {why why' : SessionError → Prop} {before after : Station}
    (h : before.Loses why after) (hwhy : ∀ error, why error → why' error) :
    before.Grows why' after :=
  ⟨Nat.le_of_eq h.nextCall.symm, h.execute,
    h.router.imp_right fun hrouter error heq => hwhy error (hrouter error heq)⟩

theorem Station.Grows.refl (why : SessionError → Prop) (station : Station) :
    Grows why station station :=
  ⟨Nat.le_refl _, rfl, .inl rfl⟩

/-- A command may arrive that was sent, and a result that has arrived may be handed over. -/
structure Desk.Grows (sent : Command → Prop) (before after : Desk) : Prop where
  inbound : ∀ command ∈ after.inbound, command ∈ before.inbound ∨ sent command
  handed : ∀ entry ∈ after.slot.handed, entry ∈ before.slot.handed ∨
    ∃ origin, before.inbound = some (.result origin entry.1 entry.2)

theorem Desk.Loses.grows {before after : Desk} (h : before.Loses after) (sent : Command → Prop) :
    before.Grows sent after := by
  refine ⟨fun command hmem => .inl (h.inbound command hmem), fun entry hmem => .inl ?_⟩
  rwa [h.slot.handed] at hmem

/-- Only the result that arrives is handed over. -/
theorem Slot.mem_handed_deliver {slot : Slot} {call : CallId} {value : Reply}
    {entry : CallId × Reply} (h : entry ∈ (slot.deliver call value).1.handed) :
    entry ∈ slot.handed ∨ entry = (call, value) := by
  rw [Slot.deliver] at h
  split at h
  · exact .inl h
  · split at h
    · split at h
      · exact (List.mem_append.mp h).imp_right List.mem_singleton.mp
      · exact .inl h
    · exact .inl h

theorem Desk.Grows.refl (sent : Command → Prop) (desk : Desk) : Grows sent desk desk :=
  ⟨fun _ h => .inl h, fun _ h => .inl h⟩

namespace Session

variable {ρ : Type} {before after session : Session ρ} {move : Move ρ} {incident : Option Incident}

/-- A task or somebody by hand is about to send a command from an end. -/
def IsSent (session : Session ρ) (move : Move ρ) (place : LinkEnd) (command : Command) : Prop :=
  move = .send place command ∨ ∃ task ∈ session.tasks, ∃ goOn,
    task.activity.question? = some ⟨.send place command, goOn⟩

/-- Why a router may stop with an error: a walk of its own broke down or has failed. -/
def IsReason (session : Session ρ) (error : SessionError) : Prop :=
  error = .crashed ∨ ∃ task ∈ session.tasks, ∃ router failure,
    task.activity = .walk router (Interaction.done (.error failure)) ∧ error = .failed failure

/-! ### Stations -/

theorem exists_station_perform? {effect : Effect} {answer : effect.Answer}
    (h : session.perform? effect = some (after, answer)) {party : Party} {station : Station}
    (hstation : after.station? party = some station) :
    ∃ earlier, session.station? party = some earlier ∧ earlier.Grows (fun _ => False) station := by
  have hsame (other : Session ρ) (heq : other.station? party = session.station? party)
      (hstation : other.station? party = some station) :
      ∃ earlier, session.station? party = some earlier ∧ earlier.Grows (fun _ => False) station :=
    ⟨station, heq ▸ hstation, .refl _ station⟩
  cases effect with
  | observe | apply | applyOr | confirm | isLinked =>
    cases h
    exact hsame _ (by cases party <;> rfl) hstation
  | number other =>
    cases h
    rw [station?_modifyStation] at hstation
    split at hstation
    · obtain ⟨earlier, hearlier, rfl⟩ := Option.map_eq_some_iff.mp hstation
      exact ⟨earlier, hearlier, Nat.le_succ _, rfl, .inl rfl⟩
    · exact ⟨station, hstation, .refl _ station⟩
  | cancel place call =>
    cases h
    exact hsame _ (station?_modifyDesk session place _ party) hstation
  | crash => cases h
  | send place command =>
    obtain rfl | rfl := eq_of_push? h
    · exact hsame _ rfl hstation
    · exact hsame _ (station?_modifyDesk _ _ _ party) hstation
  | await place call =>
    rw [perform?] at h
    split at h
    · cases h
      exact hsame _ rfl hstation
    · obtain ⟨reply, -, heq⟩ := Option.map_eq_some_iff.mp h
      cases heq
      exact hsame _ rfl hstation
  | register place call =>
    obtain ⟨failure, -, rfl⟩ | ⟨-, slot, -, -, rfl⟩ := register_cases h
    · exact hsame _ rfl hstation
    · exact hsame _ (station?_modifyDesk session place _ party) hstation

/-- **What a move can do to a station.** -/
theorem Moved.exists_station (h : Moved before move incident after) {party : Party}
    {station : Station} (hstation : after.station? party = some station) :
    ∃ earlier, before.station? party = some earlier ∧ earlier.Grows before.IsReason station := by
  have hsame (other : Session ρ) (heq : other.station? party = before.station? party)
      (hstation : other.station? party = some station) :
      ∃ earlier, before.station? party = some earlier ∧ earlier.Grows before.IsReason station :=
    ⟨station, heq ▸ hstation, .refl _ station⟩
  cases h with
  | @answered _ task effect goOn middle answer mem asks answers =>
    rw [station?_queueTask] at hstation
    obtain ⟨earlier, hearlier, hgrows⟩ := exists_station_perform? answers hstation
    rw [station?_withoutTask] at hearlier
    exact ⟨earlier, hearlier, hgrows.nextCall, hgrows.execute,
      hgrows.router.imp_right fun hno error heq => (hno error heq).elim⟩
  | ended => exact hsame _ (by rw [station?_endJob, station?_withoutTask]) hstation
  | @joined _ task router result mem done =>
    obtain ⟨earlier, hearlier, hloses⟩ := (loses_join _ router result).exists_station hstation
    rw [station?_withoutTask] at hearlier
    refine ⟨earlier, hearlier, hloses.grows ?_⟩
    rintro _ ⟨failure, rfl, rfl⟩
    exact .inr ⟨task, mem, router, failure, done, rfl⟩
  | delegated => exact hsame _ (by rw [station?_spawn, taken, station?_modifyDesk]) hstation
  | resulted =>
    exact hsame _ (by rw [modifySlot, station?_modifyDesk, taken, station?_modifyDesk]) hstation
  | started => exact hsame _ (by rw [start, station?_spawn]; cases party <;> rfl) hstation
  | pushed hpush =>
    obtain rfl | rfl := eq_of_push? hpush
    · exact hsame _ rfl hstation
    · exact hsame _ (station?_modifyDesk _ _ _ party) hstation
  | applied => exact hsame _ (by cases party <;> rfl) hstation
  | lost h =>
    obtain ⟨earlier, hearlier, hloses⟩ := h.exists_station hstation
    exact ⟨earlier, hearlier, hloses.grows fun error herror => .inl herror⟩

/-! ### Ends -/

theorem exists_desk_modifyDesk {place other : LinkEnd} {change : Desk → Desk} {desk : Desk}
    {sent : Command → Prop} (hchange : other = place → ∀ desk : Desk, desk.Grows sent (change desk))
    (hdesk : (session.modifyDesk place change).desk? other = some desk) :
    ∃ earlier, session.desk? other = some earlier ∧ earlier.Grows sent desk := by
  rw [desk?_modifyDesk] at hdesk
  split at hdesk
  case isTrue heq =>
    obtain ⟨earlier, hearlier, rfl⟩ := Option.map_eq_some_iff.mp hdesk
    exact ⟨earlier, hearlier, hchange heq earlier⟩
  case isFalse => exact ⟨desk, hdesk, .refl sent desk⟩

theorem exists_desk_push? {place other : LinkEnd} {command : Command} {sent : Bool} {desk : Desk}
    (h : session.push? place command = some (after, sent)) (hdesk : after.desk? other = some desk) :
    ∃ earlier, session.desk? other = some earlier ∧
      earlier.Grows (fun given => place = other.opposite ∧ given = command) desk := by
  obtain rfl | rfl := eq_of_push? h
  · exact ⟨desk, hdesk, .refl _ desk⟩
  · have hchange (heq : other = place.opposite) (desk : Desk) :
        desk.Grows (fun given => place = other.opposite ∧ given = command)
          { desk with inbound := some command } := by
      refine ⟨?_, fun _ h => .inl h⟩
      rintro _ ⟨⟩
      refine .inr ⟨?_, rfl⟩
      rw [heq]
      cases place <;> rfl
    exact exists_desk_modifyDesk hchange hdesk

theorem exists_desk_perform? {effect : Effect} {answer : effect.Answer}
    (h : session.perform? effect = some (after, answer)) {place : LinkEnd} {desk : Desk}
    (hdesk : after.desk? place = some desk) :
    ∃ earlier, session.desk? place = some earlier ∧
      earlier.Grows (fun command => effect = .send place.opposite command) desk := by
  have hsame (other : Session ρ) (heq : other.desk? place = session.desk? place)
      (hdesk : other.desk? place = some desk) :
      ∃ earlier, session.desk? place = some earlier ∧
        earlier.Grows (fun command => effect = .send place.opposite command) desk :=
    ⟨desk, heq ▸ hdesk, .refl _ desk⟩
  cases effect with
  | observe | apply | applyOr | confirm | isLinked =>
    cases h
    exact hsame _ (by cases place <;> rfl) hdesk
  | number other =>
    cases h
    exact hsame _ (desk?_modifyStation session other _ place) hdesk
  | cancel other call =>
    cases h
    exact exists_desk_modifyDesk
      (fun _ desk => Desk.Loses.grows (.of_slot (.cancel desk.slot call)) _) hdesk
  | crash => cases h
  | send other command =>
    obtain ⟨earlier, hearlier, hgrows⟩ := exists_desk_push? h hdesk
    refine ⟨earlier, hearlier, fun given hgiven => ?_, hgrows.handed⟩
    refine (hgrows.inbound given hgiven).imp_right fun h => ?_
    rw [h.1, h.2]
  | await other call =>
    rw [perform?] at h
    split at h
    · cases h
      exact hsame _ rfl hdesk
    · obtain ⟨reply, -, heq⟩ := Option.map_eq_some_iff.mp h
      cases heq
      exact hsame _ rfl hdesk
  | register other call =>
    obtain ⟨failure, -, rfl⟩ | ⟨-, slot, hslot, -, rfl⟩ := register_cases h
    · exact hsame _ rfl hdesk
    · rw [modifySlot, desk?_modifyDesk] at hdesk
      split at hdesk
      case isTrue heq =>
        subst heq
        obtain ⟨earlier, hearlier, rfl⟩ := Option.map_eq_some_iff.mp hdesk
        rw [slot?, hearlier] at hslot
        cases hslot
        exact ⟨earlier, hearlier, fun _ h => .inl h, fun _ h => .inl h⟩
      case isFalse => exact ⟨desk, hdesk, .refl _ desk⟩

/-- **What a move can do to an end.** -/
theorem Moved.exists_desk (h : Moved before move incident after) {place : LinkEnd} {desk : Desk}
    (hdesk : after.desk? place = some desk) :
    ∃ earlier, before.desk? place = some earlier ∧
      earlier.Grows (before.IsSent move place.opposite) desk := by
  have hsame (other : Session ρ) (heq : other.desk? place = before.desk? place)
      (hdesk : other.desk? place = some desk) :
      ∃ earlier, before.desk? place = some earlier ∧
        earlier.Grows (before.IsSent move place.opposite) desk :=
    ⟨desk, heq ▸ hdesk, .refl _ desk⟩
  cases h with
  | @answered _ task effect goOn middle answer mem asks answers =>
    rw [desk?_queueTask] at hdesk
    obtain ⟨earlier, hearlier, hgrows⟩ := exists_desk_perform? answers hdesk
    rw [desk?_withoutTask] at hearlier
    refine ⟨earlier, hearlier, fun command hcommand => ?_, hgrows.handed⟩
    refine (hgrows.inbound command hcommand).imp_right fun heq => .inr ⟨task, mem, ?_⟩
    subst heq
    exact ⟨goOn, asks⟩
  | ended => exact hsame _ (by rw [desk?_endJob, desk?_withoutTask]) hdesk
  | @joined _ task router result mem done =>
    obtain ⟨earlier, hearlier, hloses⟩ := (loses_join _ router result).exists_desk hdesk
    rw [desk?_withoutTask] at hearlier
    exact ⟨earlier, hearlier, hloses.grows _⟩
  | @delegated other station desk' origin call action hstation hdesk' arrived =>
    rw [desk?_spawn] at hdesk
    have htaken (desk : Desk) : desk.Grows (before.IsSent (.step (.receive other)) place.opposite)
        { desk with inbound := none } := by
      have hloses : desk.Loses { desk with inbound := none } :=
        ⟨.refl desk.slot, fun command h => absurd h (Option.not_mem_none command)⟩
      exact hloses.grows _
    exact exists_desk_modifyDesk (fun _ => htaken) hdesk
  | @resulted other desk' origin call value hdesk' arrived =>
    rw [modifySlot, desk?_modifyDesk] at hdesk
    split at hdesk
    case isTrue heq =>
      subst heq
      obtain ⟨middle, hmiddle, rfl⟩ := Option.map_eq_some_iff.mp hdesk
      rw [taken, desk?_modifyDesk, if_pos rfl, hdesk'] at hmiddle
      cases hmiddle
      refine ⟨desk', hdesk', fun command h => absurd h (Option.not_mem_none command),
        fun entry hentry => ?_⟩
      obtain hentry | rfl := Slot.mem_handed_deliver hentry
      · exact .inl hentry
      · exact .inr ⟨origin, arrived⟩
    case isFalse hne =>
      rw [taken, desk?_modifyDesk, if_neg hne] at hdesk
      exact ⟨desk, hdesk, .refl _ desk⟩
  | started => exact hsame _ (by rw [start, desk?_spawn]; cases place <;> rfl) hdesk
  | @pushed other command _ sent hpush =>
    obtain ⟨earlier, hearlier, hgrows⟩ := exists_desk_push? hpush hdesk
    refine ⟨earlier, hearlier, fun given hgiven => ?_, hgrows.handed⟩
    refine (hgrows.inbound given hgiven).imp_right fun h => .inl ?_
    rw [h.1, h.2]
  | applied => exact hsame _ (by cases place <;> rfl) hdesk
  | lost h =>
    obtain ⟨earlier, hearlier, hloses⟩ := h.exists_desk hdesk
    exact ⟨earlier, hearlier, hloses.grows _⟩

end Session

end RoundTable
