import RoundTable.Session.Slot

/-!
# Slots in use

A slot is used by many: calls are registered, results are handed over, calls are taken back, callers
give up, and whoever waits is sent away. From the uses alone, without a look at the slot, it can be
told how it stands with a call that was registered.

## Main definitions

* `SlotUse`, `Slot.after`, `Slot.ofUses`: uses of a slot, and the slot after them
* `Fate`, `Fate.use`: how it stands with a call
* `Slot.Stands`: how it stands with a call that was registered, after all uses so far
* `Slot.received`: the results that a call was handed
-/

namespace RoundTable

/-- A use of a slot. -/
inductive SlotUse where
  /-- A call is to wait in the slot. -/
  | register (call : CallId)
  /-- A result is handed over. -/
  | deliver (call : CallId) (reply : Reply)
  /-- A call is taken back. -/
  | cancel (call : CallId)
  /-- Whoever waits is sent away. -/
  | close
  /-- The caller of a call gives up. -/
  | abandon (call : CallId)

/-- The call that is to wait. -/
def SlotUse.registered? : SlotUse → Option CallId
  | register call => some call
  | _ => none

/-! ### Fates -/

/-- How it stands with a call that was registered. -/
inductive Fate where
  /-- Its caller waits. -/
  | waits
  /-- Its caller has got a result. -/
  | answered (reply : Reply)
  /-- Its caller was told that there will be no result. -/
  | disconnected
  /-- Its caller gave up before that. -/
  | givenUp

namespace Fate

/-- What a use of the slot means to a call that was registered before. Whatever ends the wait first
is final. -/
def use (call : CallId) : Fate → SlotUse → Fate
  | waits, .deliver other reply => if other = call then answered reply else waits
  | waits, .cancel other => if other = call then disconnected else waits
  | waits, .close => disconnected
  | waits, .abandon other => if other = call then givenUp else waits
  | fate, _ => fate

/-- The results that a call gets. -/
def replies : Fate → List Reply
  | answered reply => [reply]
  | waits | disconnected | givenUp => []

/-- What its caller learns; nothing as long as it waits, or if it has given up. -/
def answer? : Fate → Option (Except Failure Reply)
  | answered reply => some (.ok reply)
  | disconnected => some (.error .disconnected)
  | waits | givenUp => none

end Fate

/-! ### Slots -/

namespace Slot

/-- The slot after a use. A call that is refused leaves it as it is. -/
def after (slot : Slot) : SlotUse → Slot
  | .register call => (slot.register call).toOption.getD slot
  | .deliver call reply => (slot.deliver call reply).1
  | .cancel call => slot.cancel call
  | .close => slot.close
  | .abandon call => slot.abandon call

/-- The slot after uses, one after another. -/
def ofUses (uses : List SlotUse) : Slot := uses.foldl after vacant

/-- Whether a call may wait in the slot. -/
def Admits (slot : Slot) (call : CallId) : Prop := ∃ registered, slot.register call = .ok registered

/-- A call was registered, and this is how it stands with it after all that was done since. -/
def Stands (uses : List SlotUse) (call : CallId) (fate : Fate) : Prop :=
  ∃ before later, uses = before ++ .register call :: later ∧ (ofUses before).Admits call ∧
    later.foldl (Fate.use call) .waits = fate

/-- The results that a call was handed, oldest first. -/
def received (slot : Slot) (call : CallId) : List Reply :=
  (slot.handed.filter fun entry => entry.1 = call).map Prod.snd

end Slot

end RoundTable
