import RoundTable.Automaton.Guard
import RoundTable.Automaton.History
import RoundTable.Automaton.Selector

/-!
# Edges between phases

An edge leads from one phase to another; it is taken by the events that its selector picks and its
guard accepts. A table of edges is indexed by source phase, and within a phase the edges keep the
order in which they were registered: the first one whose selector picks an event decides about it.

## Main definitions

* `Edge`: edges
* `EdgeTable.ofEdges`, `EdgeTable.insert`: tables from edges in order of registration
* `EdgeTable.edgesFrom`, `EdgeTable.select?`: looking up
-/

namespace RoundTable

/-- An edge between phases `φ`, for events `ε` with tags `κ` and payloads `σ`. -/
structure Edge (φ κ ε σ : Type) where
  /-- The phase it leaves. -/
  source : φ
  /-- The phase it enters. -/
  target : φ
  /-- The tags it is for. -/
  selector : Selector κ
  /-- The condition under which it is taken. -/
  guard : Guard σ ε

namespace Edge

variable {φ κ ε σ : Type}

/-- Whether the edge is for the tag of an event. -/
def selects [DecidableEq κ] [Tagged ε κ] (edge : Edge φ κ ε σ) (event : ε) : Bool :=
  edge.selector.picks (tag event)

/-- Whether the guard of the edge accepts. -/
def accepts (edge : Edge φ κ ε σ) (payload : σ) (event : ε) : Bool :=
  edge.guard.check payload event

/-- The edge with one more condition, evaluated before its own. -/
def require (edge : Edge φ κ ε σ) (guard : Guard σ ε) : Edge φ κ ε σ :=
  { edge with guard := guard + edge.guard }

instance [Text.HasForm φ] [Text.HasForm κ] : Text.HasForm (Edge φ κ ε σ) where
  form edge := .record "Transition"
    [("from", Text.form edge.source), ("to", Text.form edge.target),
      ("selector", Text.form edge.selector)] false

end Edge

instance {σ ε : Type} : Text.HasForm (Guard σ ε) := ⟨fun _ => .record "Guard" [] false⟩

/-- Edges grouped by source phase. -/
structure EdgeTable (φ κ ε σ : Type) where
  /-- The groups, each with the edges of one phase in order of registration. -/
  groups : List (φ × List (Edge φ κ ε σ))

namespace EdgeTable

variable {φ κ ε σ : Type} [DecidableEq φ]

/-- The table without edges. -/
def empty : EdgeTable φ κ ε σ := ⟨[]⟩

/-- Adds an edge at the end of the group of its source. -/
def insertInto (edge : Edge φ κ ε σ) :
    List (φ × List (Edge φ κ ε σ)) → List (φ × List (Edge φ κ ε σ))
  | [] => [(edge.source, [edge])]
  | (phase, edges) :: rest =>
    if phase = edge.source then (phase, edges ++ [edge]) :: rest
    else (phase, edges) :: insertInto edge rest

/-- Registers one more edge. -/
def insert (table : EdgeTable φ κ ε σ) (edge : Edge φ κ ε σ) : EdgeTable φ κ ε σ :=
  ⟨insertInto edge table.groups⟩

/-- Registers edges in order. -/
def ofEdges (edges : List (Edge φ κ ε σ)) : EdgeTable φ κ ε σ := edges.foldl insert empty

/-- The edges that leave a phase, in order of registration. -/
def edgesFrom (table : EdgeTable φ κ ε σ) (phase : φ) : List (Edge φ κ ε σ) :=
  ((table.groups.find? fun g => g.1 = phase).map Prod.snd).getD []

/-- The edge that decides about an event: the first one of the phase that is for its tag. -/
def select? [DecidableEq κ] [Tagged ε κ] (table : EdgeTable φ κ ε σ) (phase : φ) (event : ε) :
    Option (Edge φ κ ε σ) :=
  (table.edgesFrom phase).find? fun edge => edge.selects event

/-- How many edges there are. -/
def length (table : EdgeTable φ κ ε σ) : Nat := (table.groups.flatMap Prod.snd).length

end EdgeTable

end RoundTable
