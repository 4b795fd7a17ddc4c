import RoundTable.Automaton.Selector
import RoundTable.GameState

/-!
# Events of the game

What can happen at the table. Each event names the player it comes from; its kind is its tag.

## Main definitions

* `GameEvent`, `GameEvent.origin`: events and who they come from
* `EventKind`: the kinds of events
-/

namespace RoundTable

/-- The kinds of events. -/
inductive EventKind where
  | drawCards | nextTurn | reportBug | reactWithCard | reactWithoutCard | resolveStumbling | discard
  deriving DecidableEq

instance : Catalogue EventKind where
  all := [.drawCards, .nextTurn, .reportBug, .reactWithCard, .reactWithoutCard,
    .resolveStumbling, .discard]
  name
    | .drawCards => "DrawCards"
    | .nextTurn => "NextTurn"
    | .reportBug => "ReportBug"
    | .reactWithCard => "ReactWithCard"
    | .reactWithoutCard => "ReactWithoutCard"
    | .resolveStumbling => "ResolveStumbling"
    | .discard => "Discard"

/-- Something that happens at the table. -/
inductive GameEvent where
  /-- Cards are drawn. -/
  | drawCards (origin : PlayerId)
  /-- The turn passes to the next seat. -/
  | nextTurn (origin : PlayerId)
  /-- A bug is reported against a victim. -/
  | reportBug (origin victim : PlayerId) (bug : BugReport)
  /-- A victim answers with a card. -/
  | reactWithCard (origin victim : PlayerId) (card : Card)
  /-- A victim takes the hit. -/
  | reactWithoutCard (origin victim : PlayerId)
  /-- A stumbling card is dealt with, by a card or by taking the hit. -/
  | resolveStumbling (origin : PlayerId) (via : Option Card)
  /-- Cards are discarded. -/
  | discard (origin : PlayerId) (cards : List Card)
  deriving DecidableEq

namespace GameEvent

/-- The player that an event comes from. -/
def origin : GameEvent → PlayerId
  | drawCards origin | nextTurn origin | reportBug origin _ _ | reactWithCard origin _ _
  | reactWithoutCard origin _ | resolveStumbling origin _ | discard origin _ => origin

/-- The kind of an event. -/
def kind : GameEvent → EventKind
  | drawCards _ => .drawCards
  | nextTurn _ => .nextTurn
  | reportBug _ _ _ => .reportBug
  | reactWithCard _ _ _ => .reactWithCard
  | reactWithoutCard _ _ => .reactWithoutCard
  | resolveStumbling _ _ => .resolveStumbling
  | discard _ _ => .discard

instance : Tagged GameEvent EventKind := ⟨kind⟩

/-- The named parts of an event, in order. -/
def fields : GameEvent → List (String × Text.Form)
  | drawCards origin | nextTurn origin => [("origin", Text.form origin)]
  | reportBug origin victim bug =>
    [("origin", Text.form origin), ("victim", Text.form victim), ("bug", Text.form bug)]
  | reactWithCard origin victim card =>
    [("origin", Text.form origin), ("victim", Text.form victim), ("card", Text.form card)]
  | reactWithoutCard origin victim =>
    [("origin", Text.form origin), ("victim", Text.form victim)]
  | resolveStumbling origin via => [("origin", Text.form origin), ("via", Text.form via)]
  | discard origin cards => [("origin", Text.form origin), ("cards", Text.form cards)]

instance : Text.HasForm GameEvent where
  form event := .record (Catalogue.name event.kind) event.fields true

end GameEvent

end RoundTable
