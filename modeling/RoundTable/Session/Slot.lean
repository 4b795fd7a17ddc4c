import RoundTable.Session.Command

/-!
# Result slots

At each end of a link there is a slot for the result of a call. One call at a time may wait in it,
and a result is handed to the call whose number it carries, or to nobody. A caller who has given up
stands in nobody's way.

## Main definitions

* `Slot`: the call that waits and the results handed over
* `Slot.register`, `Slot.deliver`, `Slot.cancel`, `Slot.close`, `Slot.abandon`: its operations
* `Slot.answer?`: what a caller learns
-/

namespace RoundTable

/-- A call that waits in a slot. -/
structure Waiter where
  /-- The number of the call. -/
  call : CallId
  /-- Whether the caller still waits. -/
  isLive : Bool
  deriving DecidableEq

/-- The slot for results at one end of a link. -/
structure Slot where
  /-- The call that waits. -/
  waiter : Option Waiter
  /-- The results handed over, oldest first. -/
  handed : List (CallId × Reply)

namespace Slot

/-- A slot in which nobody waits. -/
def vacant : Slot := ⟨none, []⟩

/-- The call whose caller still waits. -/
def live? (slot : Slot) : Option CallId :=
  (slot.waiter.filter Waiter.isLive).map Waiter.call

/-- Lets a call wait; not while another one does. -/
def register (slot : Slot) (call : CallId) : Except Failure Slot :=
  match slot.live? with
  | some pending =>
    .error (.routing ("call " ++ toString call ++ " overlaps outstanding call " ++
      toString pending))
  | none => .ok { slot with waiter := some ⟨call, true⟩ }

/-- Hands a reply to the call of the given number and frees the slot. The reply comes back if no
such call waits, or if its caller has given up. -/
def deliver (slot : Slot) (call : CallId) (reply : Reply) : Slot × Option Reply :=
  match slot.waiter with
  | none => (slot, some reply)
  | some waiter =>
    if waiter.call = call then
      if waiter.isLive then (⟨none, slot.handed ++ [(call, reply)]⟩, none)
      else (⟨none, slot.handed⟩, some reply)
    else (slot, some reply)

/-- Whether it is the given call that waits, its caller still there or not. -/
def isFor (slot : Slot) (call : CallId) : Bool :=
  slot.waiter.any fun waiter => waiter.call = call

/-- Takes a call back. -/
def cancel (slot : Slot) (call : CallId) : Slot :=
  if slot.isFor call then { slot with waiter := none } else slot

/-- Sends away whoever waits. -/
def close (slot : Slot) : Slot := { slot with waiter := none }

/-- The caller of a call gives up. -/
def abandon (slot : Slot) (call : CallId) : Slot :=
  if slot.isFor call then { slot with waiter := some ⟨call, false⟩ } else slot

/-- What the caller of a call learns: the result that was handed over; or, if the call does not wait
any more, that the other side is gone; or nothing yet. -/
def answer? (slot : Slot) (call : CallId) : Option (Except Failure Reply) :=
  match slot.handed.find? fun entry => entry.1 = call with
  | some entry => some (.ok entry.2)
  | none => if slot.live? = some call then none else some (.error .disconnected)

end Slot

end RoundTable
