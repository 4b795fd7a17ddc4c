import Mathlib.Data.List.Induction
import RoundTable.Proofs.Session.Losses
import RoundTable.Session.SlotUse

/-!
# A result goes to the caller who waits for it, or to nobody

In a slot a call may be left that nobody waits for any more, and a result that is not for the call
in the slot is taken to it and brought back. None of this can be told from outside: however a slot
is used, if no number is used for two calls, then at most one caller waits at any time; a call is
admitted exactly if nobody waits; a result is taken exactly if its own caller waits; and what a
caller learns is decided by whatever ended the wait first.

## Main definitions

* `Slot.Tracks`: a slot shows how it stands with each call

## Main results

* `Slot.stands_concat`: how one use changes how it stands with a call
* `Slot.live?_after`, `Slot.received_after`: how one use changes the slot
* `Slot.Tracks.after`, `Slot.tracks_ofUses`: slots show how it stands with each call
* `Slot.results_reach_own_caller`: who waits, who is admitted, and who gets what
-/

namespace RoundTable

/-! ### Fates -/

namespace Fate

variable {call : CallId} {fate : Fate}

/-- What has ended stays as it is. -/
theorem use_of_ne_waits (h : fate ≠ waits) (use : SlotUse) : fate.use call use = fate := by
  cases fate with
  | waits => exact absurd rfl h
  | answered reply => rfl
  | disconnected => rfl
  | givenUp => rfl

theorem use_register (fate : Fate) (other : CallId) : fate.use call (.register other) = fate := by
  cases fate <;> rfl

/-- Nobody waits again. -/
theorem use_eq_waits_iff {use : SlotUse} :
    fate.use call use = waits ↔ fate = waits ∧ waits.use call use = waits := by
  by_cases h : fate = waits
  · simp [h]
  · simp [use_of_ne_waits h, h]

end Fate

namespace Slot

variable {slot : Slot} {call other : CallId} {reply : Reply} {use : SlotUse}

/-! ### One use of a slot -/

theorem live?_eq_some_iff : slot.live? = some call ↔ slot.waiter = some ⟨call, true⟩ := by
  rw [live?]
  cases slot.waiter with
  | none => simp
  | some waiter =>
    obtain ⟨number, isLive⟩ := waiter
    cases isLive <;> simp [Option.filter]

theorem admits_iff : slot.Admits call ↔ slot.live? = none := by
  rw [Admits, register]
  cases slot.live? <;> simp

theorem after_register_of_admits (h : slot.Admits call) :
    slot.after (.register call) = { slot with waiter := some ⟨call, true⟩ } := by
  have hlive := admits_iff.mp h
  simp [after, register, hlive, Except.toOption]

theorem after_register_of_not_admits (h : ¬slot.Admits call) :
    slot.after (.register call) = slot := by
  obtain ⟨pending, hlive⟩ := Option.ne_none_iff_exists'.mp fun hnone => h (admits_iff.mpr hnone)
  simp [after, register, hlive, Except.toOption]

theorem live?_deliver_iff : (slot.deliver other reply).1.live? = some call ↔
    slot.live? = some call ∧ other ≠ call := by
  obtain ⟨_ | waiter, handed⟩ := slot
  · simp [live?_eq_some_iff, deliver]
  · by_cases hcall : waiter.call = other <;>
      simp [live?_eq_some_iff, deliver, hcall] <;> grind

theorem live?_cancel_iff : (slot.cancel other).live? = some call ↔
    slot.live? = some call ∧ other ≠ call := by
  obtain ⟨_ | waiter, handed⟩ := slot
  · simp [live?_eq_some_iff, cancel, isFor]
  · by_cases hcall : waiter.call = other <;>
      simp [live?_eq_some_iff, cancel, isFor, hcall] <;> grind

theorem live?_abandon_iff : (slot.abandon other).live? = some call ↔
    slot.live? = some call ∧ other ≠ call := by
  obtain ⟨_ | waiter, handed⟩ := slot
  · simp [live?_eq_some_iff, abandon, isFor]
  · by_cases hcall : waiter.call = other <;>
      simp [live?_eq_some_iff, abandon, isFor, hcall] <;> grind

/-- Unless a call is registered, those wait on to whom the use means nothing. -/
theorem live?_after (huse : use.registered? = none) :
    (slot.after use).live? = some call ↔
      slot.live? = some call ∧ Fate.waits.use call use = .waits := by
  cases use with
  | register other => cases huse
  | deliver other reply =>
    rw [after, live?_deliver_iff, Fate.use]
    simp
  | cancel other =>
    rw [after, live?_cancel_iff, Fate.use]
    simp
  | close =>
    rw [after, close, live?_eq_some_iff]
    simp [Fate.use]
  | abandon other =>
    rw [after, live?_abandon_iff, Fate.use]
    simp

/-- A result is taken if its caller waits, and the slot is vacant then. -/
theorem deliver_of_waits (h : slot.live? = some call) (reply : Reply) :
    slot.deliver call reply = (⟨none, slot.handed ++ [(call, reply)]⟩, none) := by
  rw [live?_eq_some_iff] at h
  simp [deliver, h]

/-- A result comes back if its caller does not wait, and whoever waits goes on to wait. -/
theorem deliver_of_not_waits (h : slot.live? ≠ some call) (reply : Reply) :
    (slot.deliver call reply).2 = some reply ∧
      (slot.deliver call reply).1.handed = slot.handed ∧
      (slot.deliver call reply).1.live? = slot.live? := by
  refine ⟨?_, (Loses.deliver h reply).handed, Option.ext fun other => ?_⟩
  · rw [ne_eq, live?_eq_some_iff] at h
    obtain ⟨_ | ⟨number, isLive⟩, handed⟩ := slot
    · rfl
    · by_cases hcall : number = call
      · subst hcall
        cases isLive with
        | false => simp [deliver]
        | true => exact absurd rfl h
      · simp [deliver, hcall]
  · rw [live?_deliver_iff, and_iff_left_iff_imp]
    rintro hother rfl
    exact h hother

theorem received_congr {before after : Slot} (h : after.handed = before.handed) (call : CallId) :
    after.received call = before.received call := by
  rw [received, received, h]

theorem received_deliver (slot : Slot) (call other : CallId) (reply : Reply) :
    (slot.deliver other reply).1.received call =
      slot.received call ++ if slot.live? = some call ∧ other = call then [reply] else [] := by
  by_cases hlive : slot.live? = some other
  · rw [deliver_of_waits hlive, hlive, received, List.filter_append, List.map_append, ← received]
    by_cases heq : other = call <;> simp [heq]
  · rw [received_congr (deliver_of_not_waits hlive reply).2.1, if_neg, List.append_nil]
    rintro ⟨hcall, rfl⟩
    exact hlive hcall

/-- Unless a call is registered, those who wait are handed what the use gives them. -/
theorem received_after (huse : use.registered? = none) :
    (slot.after use).received call = slot.received call ++
      if slot.live? = some call then (Fate.waits.use call use).replies else [] := by
  cases use with
  | register other => cases huse
  | deliver other reply =>
    rw [after, received_deliver, Fate.use]
    by_cases heq : other = call <;> simp [heq, Fate.replies]
  | cancel other =>
    rw [after, received_congr (Loses.cancel slot other).handed, Fate.use]
    by_cases heq : other = call <;> simp [heq, Fate.replies]
  | close =>
    rw [after, received_congr (Loses.close slot).handed]
    simp [Fate.use, Fate.replies]
  | abandon other =>
    rw [after, received_congr (Loses.abandon slot other).handed, Fate.use]
    by_cases heq : other = call <;> simp [heq, Fate.replies]

/-! ### How it stands with calls -/

variable {uses : List SlotUse} {fate : Fate}

theorem ofUses_concat (uses : List SlotUse) (use : SlotUse) :
    ofUses (uses ++ [use]) = (ofUses uses).after use := by
  rw [ofUses, List.foldl_append]
  rfl

theorem Stands.mem_registered (h : Stands uses call fate) :
    call ∈ uses.filterMap SlotUse.registered? := by
  obtain ⟨before, later, rfl, -, -⟩ := h
  exact List.mem_filterMap.mpr ⟨.register call, by simp, rfl⟩

/-- A use changes how it stands with the calls registered before, and may register one. -/
theorem stands_concat : Stands (uses ++ [use]) call fate ↔
    (∃ earlier, Stands uses call earlier ∧ earlier.use call use = fate) ∨
      use = .register call ∧ (ofUses uses).Admits call ∧ fate = .waits := by
  constructor
  · rintro ⟨before, later, huses, hadmits, rfl⟩
    cases later using List.reverseRecOn with
    | nil =>
      obtain ⟨rfl, hlast⟩ := List.append_inj' huses rfl
      exact .inr ⟨List.head_eq_of_cons_eq hlast, hadmits, rfl⟩
    | append_singleton later last =>
      rw [← List.cons_append, ← List.append_assoc] at huses
      obtain ⟨rfl, hlast⟩ := List.append_inj' huses rfl
      obtain rfl : use = last := List.head_eq_of_cons_eq hlast
      refine .inl ⟨_, ⟨before, later, rfl, hadmits, rfl⟩, ?_⟩
      rw [List.foldl_append]
      rfl
  · rintro (⟨_, ⟨before, later, rfl, hadmits, rfl⟩, rfl⟩ | ⟨rfl, hadmits, rfl⟩)
    · refine ⟨before, later ++ [use], by simp, hadmits, ?_⟩
      rw [List.foldl_append]
      rfl
    · exact ⟨uses, [], rfl, hadmits, rfl⟩

/-- A slot shows how it stands with each call. -/
structure Tracks (uses : List SlotUse) (slot : Slot) : Prop where
  /-- There are no two answers. -/
  unique : ∀ {call fate fate'}, Stands uses call fate → Stands uses call fate' → fate = fate'
  /-- The caller in the slot is the one who waits. -/
  live : ∀ {call}, slot.live? = some call ↔ Stands uses call .waits
  /-- A call has been handed what it got. -/
  received : ∀ {call fate}, Stands uses call fate → slot.received call = fate.replies
  /-- Nothing has been handed to calls that were not registered. -/
  unknown : ∀ {call}, (∀ fate, ¬Stands uses call fate) → slot.received call = []

namespace Tracks

theorem vacant : Tracks [] vacant := by
  have hnone {call : CallId} {fate : Fate} : ¬Stands [] call fate := by
    rintro ⟨before, later, huses, -, -⟩
    simp at huses
  exact ⟨fun h => absurd h hnone, iff_of_false nofun hnone, fun h => absurd h hnone, fun _ => rfl⟩

/-- One use of the slot that registers nothing. -/
theorem after (h : Tracks uses slot) (huse : use.registered? = none) :
    Tracks (uses ++ [use]) (slot.after use) := by
  have hstands {call : CallId} {fate : Fate} : Stands (uses ++ [use]) call fate ↔
      ∃ earlier, Stands uses call earlier ∧ earlier.use call use = fate := by
    rw [stands_concat, or_iff_left]
    rintro ⟨rfl, -⟩
    cases huse
  refine ⟨?_, ?_, ?_, ?_⟩
  · intro call fate fate' hfate hfate'
    obtain ⟨earlier, hearlier, rfl⟩ := hstands.mp hfate
    obtain ⟨earlier', hearlier', rfl⟩ := hstands.mp hfate'
    rw [h.unique hearlier hearlier']
  · intro call
    rw [live?_after huse, h.live, hstands]
    constructor
    · rintro ⟨hwaits, hmeans⟩
      exact ⟨.waits, hwaits, hmeans⟩
    · rintro ⟨earlier, hearlier, hmeans⟩
      obtain ⟨rfl, hmeans⟩ := Fate.use_eq_waits_iff.mp hmeans
      exact ⟨hearlier, hmeans⟩
  · intro call fate hfate
    obtain ⟨earlier, hearlier, rfl⟩ := hstands.mp hfate
    rw [received_after huse, h.received hearlier]
    by_cases hwaits : earlier = .waits
    · subst hwaits
      rw [if_pos (h.live.mpr hearlier)]
      rfl
    · have hlive : slot.live? ≠ some call := fun hlive =>
        hwaits (h.unique hearlier (h.live.mp hlive))
      rw [if_neg hlive, List.append_nil, Fate.use_of_ne_waits hwaits]
  · intro call hunknown
    have hbefore : ∀ fate, ¬Stands uses call fate := fun fate hfate =>
      hunknown _ (hstands.mpr ⟨fate, hfate, rfl⟩)
    rw [received_after huse, h.unknown hbefore, if_neg fun hlive => hbefore _ (h.live.mp hlive)]
    rfl

/-- One call that is registered under a new number. -/
theorem register (h : Tracks uses (ofUses uses))
    (hnew : call ∉ uses.filterMap SlotUse.registered?) :
    Tracks (uses ++ [.register call]) ((ofUses uses).after (.register call)) := by
  have hnone {fate : Fate} : ¬Stands uses call fate := fun hfate => hnew hfate.mem_registered
  have hstands {other : CallId} {fate : Fate} : Stands (uses ++ [.register call]) other fate ↔
      Stands uses other fate ∨ call = other ∧ (ofUses uses).Admits call ∧ fate = .waits := by
    refine stands_concat.trans (or_congr (by simp [Fate.use_register]) ⟨?_, ?_⟩)
    · rintro ⟨⟨⟩, hadmits, rfl⟩
      exact ⟨rfl, hadmits, rfl⟩
    · rintro ⟨rfl, hadmits, rfl⟩
      exact ⟨rfl, hadmits, rfl⟩
  by_cases hadmits : (ofUses uses).Admits call
  · rw [after_register_of_admits hadmits]
    have hvacant : (ofUses uses).live? = none := admits_iff.mp hadmits
    have hwaiting {other : CallId} : ¬Stands uses other .waits := fun hwaits => by
      cases hvacant.symm.trans (h.live.mpr hwaits)
    refine ⟨?_, ?_, ?_, ?_⟩
    · intro other fate fate' hfate hfate'
      obtain hfate | ⟨rfl, -, rfl⟩ := hstands.mp hfate <;>
        obtain hfate' | ⟨heq, -, rfl⟩ := hstands.mp hfate'
      · exact h.unique hfate hfate'
      · exact absurd (heq ▸ hfate) hnone
      · exact absurd hfate' hnone
      · rfl
    · intro other
      rw [live?_eq_some_iff, hstands, or_iff_right hwaiting]
      simp [hadmits]
    · intro other fate hfate
      rw [received_congr rfl]
      obtain hfate | ⟨rfl, -, rfl⟩ := hstands.mp hfate
      · exact h.received hfate
      · exact h.unknown fun _ => hnone
    · intro other hunknown
      rw [received_congr rfl]
      exact h.unknown fun fate hfate => hunknown fate (hstands.mpr (.inl hfate))
  · rw [after_register_of_not_admits hadmits]
    have hstands {other : CallId} {fate : Fate} :
        Stands (uses ++ [.register call]) other fate ↔ Stands uses other fate := by
      rw [hstands, or_iff_left]
      exact fun hcall => hadmits hcall.2.1
    refine ⟨?_, ?_, ?_, ?_⟩
    · intro other fate fate' hfate hfate'
      exact h.unique (hstands.mp hfate) (hstands.mp hfate')
    · intro other
      rw [h.live, hstands]
    · intro other fate hfate
      exact h.received (hstands.mp hfate)
    · intro other hunknown
      exact h.unknown fun fate hfate => hunknown fate (hstands.mpr hfate)

/-- What a caller learns who has not given up. -/
theorem answer?_eq (h : Tracks uses slot) (hfate : Stands uses call fate) (hne : fate ≠ .givenUp) :
    slot.answer? call = fate.answer? := by
  have hreceived := h.received hfate
  rw [Slot.received] at hreceived
  rw [answer?, ← List.head?_filter]
  cases fate with
  | waits =>
    rw [List.map_eq_nil_iff.mp hreceived, List.head?_nil]
    exact if_pos (h.live.mpr hfate)
  | answered reply =>
    obtain ⟨entry, hentry, rfl⟩ := List.map_eq_singleton_iff.mp hreceived
    rw [hentry]
    rfl
  | disconnected =>
    have hlive : slot.live? ≠ some call := fun hlive => by
      cases h.unique hfate (h.live.mp hlive)
    rw [List.map_eq_nil_iff.mp hreceived, List.head?_nil]
    exact if_neg hlive
  | givenUp => exact absurd rfl hne

end Tracks

/-- However a slot is used, it shows how it stands with each call. -/
theorem tracks_ofUses (hnumbers : (uses.filterMap SlotUse.registered?).Nodup) :
    Tracks uses (ofUses uses) := by
  induction uses using List.reverseRecOn with
  | nil => exact .vacant
  | append_singleton uses use ih =>
    rw [List.filterMap_append] at hnumbers
    obtain ⟨hnumbers, -, hnew⟩ := List.nodup_append.mp hnumbers
    have hbefore := ih hnumbers
    rw [ofUses_concat]
    cases huse : use.registered? with
    | none => exact hbefore.after huse
    | some call =>
      cases use with
      | register other =>
        cases huse
        exact hbefore.register fun hmem => hnew _ hmem _ List.mem_cons_self rfl
      | deliver | cancel | close | abandon => cases huse

/-- A call is admitted exactly if nobody waits. -/
theorem Tracks.admits_iff (h : Tracks uses slot) :
    slot.Admits call ↔ ∀ other, ¬Stands uses other .waits := by
  rw [Slot.admits_iff, Option.eq_none_iff_forall_ne_some]
  exact forall_congr' fun other => not_congr h.live

/-- **A result goes to the caller who waits for it, or to nobody.** Let a slot be used in any way,
no number being registered twice. Then

* at most one caller waits, the one whose call is live in the slot,
* a call is admitted exactly if nobody waits; then it waits itself, and one that is refused changes
  nothing,
* a result is taken exactly if its caller waits; it is handed to this caller, and the slot is
  vacant. If not, it comes back, nothing is handed over, and whoever waits goes on to wait,
* a call that is in the slot is taken out by taking back that call and no other,
* and of all that becomes of a call that was registered, whatever ends the wait first is final: a
  caller who was answered learns and gets this one result, a caller who was disconnected learns this
  and gets nothing, a caller who waits learns nothing yet, and neither callers who have given up nor
  calls that were not registered get anything. -/
theorem results_reach_own_caller (hnumbers : (uses.filterMap SlotUse.registered?).Nodup) :
    (∀ call other, Stands uses call .waits → Stands uses other .waits → call = other) ∧
    (∀ call, (ofUses uses).live? = some call ↔ Stands uses call .waits) ∧
    (∀ call, (ofUses uses).Admits call ↔ ∀ other, ¬Stands uses other .waits) ∧
    (∀ call, (ofUses uses).Admits call ∧ (ofUses (uses ++ [.register call])).live? = some call ∨
      ¬(ofUses uses).Admits call ∧ ofUses (uses ++ [.register call]) = ofUses uses) ∧
    (∀ call reply, (ofUses uses).deliver call reply =
      (⟨none, (ofUses uses).handed ++ [(call, reply)]⟩, none) ∧ Stands uses call .waits ∨
      ¬Stands uses call .waits ∧ ((ofUses uses).deliver call reply).2 = some reply ∧
        ((ofUses uses).deliver call reply).1.handed = (ofUses uses).handed ∧
        ((ofUses uses).deliver call reply).1.live? = (ofUses uses).live?) ∧
    (∀ call waiter, (ofUses uses).waiter = some waiter →
      (((ofUses uses).cancel call).waiter = none ↔ waiter.call = call) ∧
      (waiter.call ≠ call → (ofUses uses).cancel call = ofUses uses)) ∧
    (∀ call fate, Stands uses call fate →
      (∀ other, Stands uses call other → other = fate) ∧
      (ofUses uses).received call = fate.replies ∧
      (fate ≠ .givenUp → (ofUses uses).answer? call = fate.answer?)) ∧
    ∀ call, (∀ fate, ¬Stands uses call fate) → (ofUses uses).received call = [] := by
  have htracks := tracks_ofUses hnumbers
  refine ⟨?_, fun call => htracks.live, fun call => htracks.admits_iff, ?_, ?_, ?_, ?_,
    fun call => htracks.unknown⟩
  · intro call other hcall hother
    exact Option.some.inj ((htracks.live.mpr hcall).symm.trans (htracks.live.mpr hother))
  · intro call
    rw [ofUses_concat]
    by_cases hadmits : (ofUses uses).Admits call
    · rw [after_register_of_admits hadmits, live?_eq_some_iff]
      exact .inl ⟨hadmits, rfl⟩
    · exact .inr ⟨hadmits, after_register_of_not_admits hadmits⟩
  · intro call reply
    by_cases hlive : (ofUses uses).live? = some call
    · exact .inl ⟨deliver_of_waits hlive reply, htracks.live.mp hlive⟩
    · obtain ⟨hback, hhanded, hothers⟩ := deliver_of_not_waits hlive reply
      exact .inr ⟨fun hwaits => hlive (htracks.live.mpr hwaits), hback, hhanded, hothers⟩
  · intro call waiter hwaiter
    by_cases hcall : waiter.call = call <;> simp [cancel, isFor, hwaiter, hcall]
  · intro call fate hfate
    exact ⟨fun other hother => htracks.unique hother hfate, htracks.received hfate,
      htracks.answer?_eq hfate⟩

/-- The first call is answered once although a second one and results of others come in between, the
third one is given up, and the fourth one is there when the slot is closed. -/
def revolvingDoor : List SlotUse :=
  [.register ⟨1⟩, .register ⟨2⟩, .deliver ⟨2⟩ .unit, .cancel ⟨2⟩, .deliver ⟨1⟩ (.outcome .success),
    .deliver ⟨1⟩ .unit, .register ⟨3⟩, .abandon ⟨3⟩, .register ⟨4⟩, .deliver ⟨3⟩ .unit, .close,
    .deliver ⟨4⟩ .unit]

theorem results_reach_own_caller_revolvingDoor :
    (revolvingDoor.filterMap SlotUse.registered?).Nodup ∧
      Stands revolvingDoor ⟨1⟩ (.answered (.outcome .success)) ∧
      (ofUses revolvingDoor).received ⟨1⟩ = [.outcome .success] ∧
      Stands revolvingDoor ⟨3⟩ .givenUp ∧ (ofUses revolvingDoor).received ⟨3⟩ = [] ∧
      Stands revolvingDoor ⟨4⟩ .disconnected ∧
      (ofUses revolvingDoor).answer? ⟨4⟩ = some (.error .disconnected) := by
  have hnumbers : (revolvingDoor.filterMap SlotUse.registered?).Nodup := by decide
  obtain ⟨-, -, -, -, -, -, hfates, -⟩ := results_reach_own_caller hnumbers
  have hfirst : Stands revolvingDoor ⟨1⟩ (.answered (.outcome .success)) :=
    ⟨[], _, rfl, ⟨_, rfl⟩, rfl⟩
  have hthird : Stands revolvingDoor ⟨3⟩ .givenUp :=
    ⟨revolvingDoor.take 6, revolvingDoor.drop 7, rfl, ⟨_, rfl⟩, rfl⟩
  have hfourth : Stands revolvingDoor ⟨4⟩ .disconnected :=
    ⟨revolvingDoor.take 8, revolvingDoor.drop 9, rfl, ⟨_, rfl⟩, rfl⟩
  exact ⟨hnumbers, hfirst, (hfates _ _ hfirst).2.1, hthird, (hfates _ _ hthird).2.1, hfourth,
    (hfates _ _ hfourth).2.2 nofun⟩

end Slot

end RoundTable
