import RoundTable.Automaton.Machine
import RoundTable.Automaton.Registration

/-!
# Machines built call by call

The draft of a machine is made by calls, one after another, as that of an edge is. A call is for one
thing: it gives a part, or it adds to the condition of an edge, and a part without which nothing can
be built has an error that says that no call has given it.

## Main definitions

* `MachineCall`, `MachineDraft.ofCalls`: calls on the draft of a machine
* `EdgeSetter`, `EdgePart`, `MachineSetter`: what a call is for
* `EdgeCall.supplies?`, `MachineCall.supplies?`: the error that a call prevents
-/

namespace RoundTable

variable {φ κ ε σ : Type}

/-! ### Calls on the draft of a machine -/

/-- A call on the draft of a machine. -/
inductive MachineCall (φ κ ε σ : Type) where
  /-- Gives the edges. -/
  | along (table : EdgeTable φ κ ε σ)
  /-- Gives the first phase. -/
  | startingIn (phase : φ)
  /-- Gives the first payload. -/
  | startingWith (payload : σ)
  /-- Gives the reducer. -/
  | folding (reduce : σ → ε → σ)
  /-- Gives the inspector. -/
  | inspected (breaks : σ → Bool)

/-- What a call on the draft of a machine is for. -/
inductive MachineSetter where
  | along | startingIn | startingWith | folding | inspected
  deriving DecidableEq

namespace MachineCall

/-- What a call is for. -/
def setter : MachineCall φ κ ε σ → MachineSetter
  | along _ => .along
  | startingIn _ => .startingIn
  | startingWith _ => .startingWith
  | folding _ => .folding
  | inspected _ => .inspected

/-- The edges that a call gives. -/
def table? : MachineCall φ κ ε σ → Option (EdgeTable φ κ ε σ)
  | along table => some table
  | _ => none

/-- The first phase that a call gives. -/
def initial? : MachineCall φ κ ε σ → Option φ
  | startingIn phase => some phase
  | _ => none

/-- The first payload that a call gives. -/
def payload? : MachineCall φ κ ε σ → Option σ
  | startingWith payload => some payload
  | _ => none

/-- The reducer that a call gives. -/
def reduce? : MachineCall φ κ ε σ → Option (σ → ε → σ)
  | folding reduce => some reduce
  | _ => none

/-- The inspector that a call gives. -/
def breaks? : MachineCall φ κ ε σ → Option (σ → Bool)
  | inspected breaks => some breaks
  | _ => none

/-- The error that a call prevents. -/
def supplies? : MachineCall φ κ ε σ → Option BuildError
  | along _ => some .missingTable
  | startingIn _ => some .missingInitialPhase
  | startingWith _ => some .missingPayload
  | folding _ => some .missingReducer
  | inspected _ => none

end MachineCall

namespace MachineDraft

/-- The draft after a call. -/
def call (draft : MachineDraft φ κ ε σ) : MachineCall φ κ ε σ → MachineDraft φ κ ε σ
  | .along table => draft.along table
  | .startingIn phase => draft.startingIn phase
  | .startingWith payload => draft.startingWith payload
  | .folding reduce => draft.folding reduce
  | .inspected breaks => draft.inspected breaks

/-- The draft after calls, one after another. -/
def ofCalls (calls : List (MachineCall φ κ ε σ)) : MachineDraft φ κ ε σ := calls.foldl call empty

end MachineDraft

/-! ### Calls on the draft of an edge -/

/-- What a call on the draft of an edge is for. -/
inductive EdgeSetter where
  | leaving | entering | via | guarded | tested
  deriving DecidableEq

/-- The parts of an edge. -/
inductive EdgePart where
  | source | target | selector | condition
  deriving DecidableEq

/-- The part that a call is about. -/
def EdgeSetter.part : EdgeSetter → EdgePart
  | leaving => .source
  | entering => .target
  | via => .selector
  | guarded | tested => .condition

namespace EdgeCall

/-- What a call is for. -/
def setter : EdgeCall φ κ ε σ → EdgeSetter
  | leaving _ => .leaving
  | entering _ => .entering
  | via _ => .via
  | guarded _ => .guarded
  | tested _ _ => .tested

/-- The part that a call is about. -/
def part (call : EdgeCall φ κ ε σ) : EdgePart := call.setter.part

/-- The error that a call prevents. -/
def supplies? : EdgeCall φ κ ε σ → Option BuildError
  | leaving _ => some .missingFromPhase
  | entering _ => some .missingToPhase
  | via _ => some .missingSelector
  | guarded _ | tested _ _ => none

end EdgeCall

end RoundTable
