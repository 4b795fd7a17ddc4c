import RoundTable.Automaton.Edge

/-!
# Drafts of edges and tables

Edges and tables are put together step by step. A draft of an edge may lack parts, and completing it
reports everything that is missing at once. A draft of a table collects edges under a common guard:
an edge is subject to the common guards that were set before it was added, not to later ones.

## Main definitions

* `BuildError`, `BuildError.message`: what can be missing
* `EdgeDraft`, `EdgeDraft.build`: edges with parts missing
* `TableDraft`, `TableDraft.build`: tables under construction
-/

namespace RoundTable

/-! ### What is missing -/

/-- A part without which nothing can be built. -/
inductive BuildError where
  | missingTable | missingInitialPhase | missingPayload | missingReducer
  | noTransitions | missingFromPhase | missingToPhase | missingSelector
  deriving DecidableEq

namespace BuildError

instance : Catalogue BuildError where
  all := [.missingTable, .missingInitialPhase, .missingPayload, .missingReducer, .noTransitions,
    .missingFromPhase, .missingToPhase, .missingSelector]
  name
    | missingTable => "MissingTable"
    | missingInitialPhase => "MissingInitialPhase"
    | missingPayload => "MissingPayload"
    | missingReducer => "MissingReducer"
    | noTransitions => "NoTransitions"
    | missingFromPhase => "MissingFromPhase"
    | missingToPhase => "MissingToPhase"
    | missingSelector => "MissingSelector"

/-- What is missing and how to supply it. -/
def message : BuildError → String
  | missingTable => "Transition table not specified. Call .table(table) before .build()"
  | missingInitialPhase => "Initial phase not specified. Call .initial(phase) before .build()"
  | missingPayload => "Initial payload not specified. Call .payload(value) before .build()"
  | missingReducer => "Reducer not specified. Call .reducer(reducer) before .build()"
  | noTransitions => "No transitions defined. Add at least one transition"
  | missingFromPhase => "Transition source phase not specified. Call .from(phase)"
  | missingToPhase => "Transition target phase not specified. Call .to(phase)"
  | missingSelector => "Transition selector not specified. Call .via(tag)"

/-- Everything that is missing, in one line. -/
def messages (errors : List BuildError) : String :=
  "; ".intercalate (errors.map message)

/-- Nothing if a part is there, the error if it is not. -/
def ifMissing {α : Type} (error : BuildError) (part : Option α) : List BuildError :=
  if part.isSome then [] else [error]

end BuildError

variable {φ κ ε σ : Type}

/-! ### Edges -/

/-- An edge some of whose parts may not have been given yet. -/
structure EdgeDraft (φ κ ε σ : Type) where
  /-- The phase it leaves. -/
  source : Option φ
  /-- The phase it enters. -/
  target : Option φ
  /-- The tags it is for. -/
  selector : Option (Selector κ)
  /-- The condition so far. -/
  guard : Option (Guard σ ε)

namespace EdgeDraft

/-- The draft of an edge of which nothing is given. -/
def empty : EdgeDraft φ κ ε σ := ⟨none, none, none, none⟩

/-- Gives the source; the last one counts. -/
def leaving (draft : EdgeDraft φ κ ε σ) (phase : φ) : EdgeDraft φ κ ε σ :=
  { draft with source := some phase }

/-- Gives the target; the last one counts. -/
def entering (draft : EdgeDraft φ κ ε σ) (phase : φ) : EdgeDraft φ κ ε σ :=
  { draft with target := some phase }

/-- Gives the selector; the last one counts. -/
def via (draft : EdgeDraft φ κ ε σ) (selector : Selector κ) : EdgeDraft φ κ ε σ :=
  { draft with selector := some selector }

/-- Adds a condition after those already there. -/
def guarded (draft : EdgeDraft φ κ ε σ) (guard : Guard σ ε) : EdgeDraft φ κ ε σ :=
  { draft with guard := some (match draft.guard with
      | some present => present + guard
      | none => guard) }

/-- The edge, or everything that it lacks. Appending the errors stands for a validation that
accumulates the failures of its checks in order. -/
def build (draft : EdgeDraft φ κ ε σ) : Except (List BuildError) (Edge φ κ ε σ) :=
  match draft.source, draft.target, draft.selector with
  | some source, some target, some selector =>
    .ok { source, target, selector, guard := draft.guard.getD default }
  | source, target, selector =>
    .error (BuildError.missingFromPhase.ifMissing source ++
      BuildError.missingToPhase.ifMissing target ++ BuildError.missingSelector.ifMissing selector)

end EdgeDraft

/-! ### Tables -/

/-- A table under construction. -/
structure TableDraft (φ κ ε σ : Type) where
  /-- The condition on every edge that is added from now on. -/
  common : Guard σ ε
  /-- The edges so far, in order of registration. -/
  edges : List (Edge φ κ ε σ)

namespace TableDraft

/-- The draft of a table without edges or conditions. -/
def empty : TableDraft φ κ ε σ := ⟨.always, []⟩

/-- Adds a condition on every edge added later. -/
def guarded (draft : TableDraft φ κ ε σ) (guard : Guard σ ε) : TableDraft φ κ ε σ :=
  { draft with common := draft.common + guard }

/-- Adds an edge. -/
def add (draft : TableDraft φ κ ε σ) (edge : Edge φ κ ε σ) : TableDraft φ κ ε σ :=
  { draft with edges := draft.edges ++ [edge.require draft.common] }

/-- Adds edges in order. -/
def addAll (draft : TableDraft φ κ ε σ) (edges : List (Edge φ κ ε σ)) : TableDraft φ κ ε σ :=
  edges.foldl add draft

/-- Adds the edge of a draft, if nothing of it is missing. -/
def addDraft (draft : TableDraft φ κ ε σ) (edge : EdgeDraft φ κ ε σ) :
    Except (List BuildError) (TableDraft φ κ ε σ) :=
  edge.build.map draft.add

/-- The table; one without edges is refused. -/
def build [DecidableEq φ] (draft : TableDraft φ κ ε σ) :
    Except (List BuildError) (EdgeTable φ κ ε σ) :=
  if draft.edges.isEmpty then .error [.noTransitions] else .ok (.ofEdges draft.edges)

end TableDraft

end RoundTable
