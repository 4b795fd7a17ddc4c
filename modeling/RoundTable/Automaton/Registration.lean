import RoundTable.Automaton.Draft

/-!
# Tables built call by call

Edges and tables are drafted by calls, one after another: a call on the draft of an edge gives one of
its parts or adds a condition, and a call on the draft of a table adds a condition on all edges to
come, or registers edges.

What calls amount to can be told without drafts. Of the parts of one kind that an edge is given, the
last one counts; its conditions add up; and a registered edge is also subject to the conditions on
all edges that were there when it was registered.

## Main definitions

* `EdgeCall`, `EdgeDraft.ofCalls`: calls on the draft of an edge
* `TableCall`, `EdgeTable.ofCalls`: calls on the draft of a table, and the table that they build
* `Registration`, `registrations`: what calls register
* `Registration.edge`: the edge that is registered
-/

namespace RoundTable

variable {φ κ ε σ : Type}

/-! ### Calls -/

/-- A call on the draft of an edge. -/
inductive EdgeCall (φ κ ε σ : Type) where
  /-- Gives the source. -/
  | leaving (phase : φ)
  /-- Gives the target. -/
  | entering (phase : φ)
  /-- Gives the selector. -/
  | via (selector : Selector κ)
  /-- Adds a condition. -/
  | guarded (guard : Guard σ ε)
  /-- Adds a condition that is a single test. -/
  | tested (name : String) (accepts : σ → ε → Bool)

namespace EdgeCall

/-- The source that a call gives. -/
def source? : EdgeCall φ κ ε σ → Option φ
  | leaving phase => some phase
  | _ => none

/-- The target that a call gives. -/
def target? : EdgeCall φ κ ε σ → Option φ
  | entering phase => some phase
  | _ => none

/-- The selector that a call gives. -/
def selector? : EdgeCall φ κ ε σ → Option (Selector κ)
  | via selector => some selector
  | _ => none

/-- The condition that a call adds. -/
def guard? : EdgeCall φ κ ε σ → Option (Guard σ ε)
  | guarded guard => some guard
  | tested name accepts => some (.test name accepts)
  | _ => none

end EdgeCall

namespace EdgeDraft

/-- The draft after a call. -/
def call (draft : EdgeDraft φ κ ε σ) : EdgeCall φ κ ε σ → EdgeDraft φ κ ε σ
  | .leaving phase => draft.leaving phase
  | .entering phase => draft.entering phase
  | .via selector => draft.via selector
  | .guarded guard => draft.guarded guard
  | .tested name accepts => draft.guarded (.test name accepts)

/-- The draft after calls, one after another. -/
def ofCalls (calls : List (EdgeCall φ κ ε σ)) : EdgeDraft φ κ ε σ := calls.foldl call empty

end EdgeDraft

/-- A call on the draft of a table. -/
inductive TableCall (φ κ ε σ : Type) where
  /-- Adds a condition on every edge added later. -/
  | guarded (guard : Guard σ ε)
  /-- Adds the edge of a draft. -/
  | draft (calls : List (EdgeCall φ κ ε σ))
  /-- Adds an edge. -/
  | edge (edge : Edge φ κ ε σ)
  /-- Adds edges in order. -/
  | edges (edges : List (Edge φ κ ε σ))

/-- Whether a draft to be added has got all the parts of an edge. -/
def TableCall.IsComplete : TableCall φ κ ε σ → Prop
  | draft calls =>
    ∃ source target selector,
      .leaving source ∈ calls ∧ .entering target ∈ calls ∧ .via selector ∈ calls
  | guarded _ | edge _ | edges _ => True

/-- The draft after a call, or everything that the edge to be added lacks. -/
def TableDraft.call (draft : TableDraft φ κ ε σ) :
    TableCall φ κ ε σ → Except (List BuildError) (TableDraft φ κ ε σ)
  | .guarded guard => .ok (draft.guarded guard)
  | .draft calls => draft.addDraft (.ofCalls calls)
  | .edge edge => .ok (draft.add edge)
  | .edges edges => .ok (draft.addAll edges)

/-- The table that calls build. The first call that fails is the last one. -/
def EdgeTable.ofCalls [DecidableEq φ] (calls : List (TableCall φ κ ε σ)) :
    Except (List BuildError) (EdgeTable φ κ ε σ) := do
  let draft ← calls.foldlM TableDraft.call .empty
  draft.build

/-! ### Registrations -/

/-- An edge that is registered. -/
structure Registration (φ κ ε σ : Type) where
  /-- The phase it leaves. -/
  source : φ
  /-- The phase it enters. -/
  target : φ
  /-- The tags it is for. -/
  selector : Selector κ
  /-- The conditions on all edges that were there before, oldest first. -/
  common : List (Guard σ ε)
  /-- Its own conditions, in order. -/
  own : List (Guard σ ε)

namespace Registration

/-- The registration of an edge under conditions. -/
def ofEdge (common : List (Guard σ ε)) (edge : Edge φ κ ε σ) : Registration φ κ ε σ where
  source := edge.source
  target := edge.target
  selector := edge.selector
  common
  own := [edge.guard]

/-- The registration of a drafted edge under conditions, if no part of it is missing. -/
def ofCalls? (common : List (Guard σ ε)) (calls : List (EdgeCall φ κ ε σ)) :
    Option (Registration φ κ ε σ) := do
  let source ← (calls.filterMap EdgeCall.source?).getLast?
  let target ← (calls.filterMap EdgeCall.target?).getLast?
  let selector ← (calls.filterMap EdgeCall.selector?).getLast?
  return { source, target, selector, common, own := calls.filterMap EdgeCall.guard? }

/-- The edge that is registered. -/
def edge (registration : Registration φ κ ε σ) : Edge φ κ ε σ where
  source := registration.source
  target := registration.target
  selector := registration.selector
  guard := registration.common.foldl (· + ·) .always + Guard.all registration.own

end Registration

/-- What calls register, if there are conditions on all edges already. -/
def registrationsUnder (common : List (Guard σ ε)) :
    List (TableCall φ κ ε σ) → List (Registration φ κ ε σ)
  | [] => []
  | .guarded guard :: calls => registrationsUnder (common ++ [guard]) calls
  | .draft edge :: calls =>
    (Registration.ofCalls? common edge).toList ++ registrationsUnder common calls
  | .edge edge :: calls => .ofEdge common edge :: registrationsUnder common calls
  | .edges edges :: calls => edges.map (.ofEdge common) ++ registrationsUnder common calls

/-- What calls register, in order. -/
def registrations (calls : List (TableCall φ κ ε σ)) : List (Registration φ κ ε σ) :=
  registrationsUnder [] calls

end RoundTable
