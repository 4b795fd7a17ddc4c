import RoundTable.Config
import RoundTable.Event
import RoundTable.Json.Shape

/-!
# The game on the wire

The JSON of cards, players, states, events and configurations. Alternatives are tagged with their
names, structures are objects with a member per field, identifiers are bare.

## Main definitions

* `Wire` instances of the types of the game
* `TableConfig.ofJson`: reading a configuration that tables accept
-/

namespace RoundTable

namespace Wire

/-! ### Identifiers and cards -/

instance : Wire Uuid where
  encode id := .text (String.ofList id.write)
  decode? value := value.text?.bind fun text => Uuid.read? text.toList

instance : Wire PlayerId where
  encode id := encode id.number
  decode? value := (decode? value).map PlayerId.mk

instance : Wire Card where
  encode
    | .bug report => .tagged "Bug" (encode report)
    | .excuse excuse => .tagged "Excuse" (encode excuse)
    | .solution solution => .tagged "Solution" (encode solution)
    | .special action => .tagged "Special" (encode action)
    | .stumbling block => .tagged "Stumbling" (encode block)
  decode? value :=
    match value.variant? with
    | some ("Bug", some content) => (decode? content).map .bug
    | some ("Excuse", some content) => (decode? content).map .excuse
    | some ("Solution", some content) => (decode? content).map .solution
    | some ("Special", some content) => (decode? content).map .special
    | some ("Stumbling", some content) => (decode? content).map .stumbling
    | _ => none

/-! ### Players and what lies on the table -/

instance : Wire Player where
  encode player := .record
    [("id", encode player.id), ("name", encode player.name), ("role", encode player.role),
      ("character", encode player.character), ("mental_health", encode player.mentalHealth),
      ("prestige", encode player.prestige), ("cards", encode player.cards)]
  decode? value := do
    let fields ← value.fields?
      ["id", "name", "role", "character", "mental_health", "prestige", "cards"]
    let [id, name, role, character, mentalHealth, prestige, cards] := fields | none
    some
      { id := ← required? id, name := ← required? name, role := ← required? role,
        character := ← required? character, mentalHealth := ← required? mentalHealth,
        prestige := ← required? prestige, cards := ← required? cards }

instance : Wire PendingAttack where
  encode attack := .record
    [("attacker", encode attack.attacker), ("victim", encode attack.victim),
      ("bug", encode attack.bug)]
  decode? value := do
    let fields ← value.fields? ["attacker", "victim", "bug"]
    let [attacker, victim, bug] := fields | none
    some
      { attacker := ← required? attacker, victim := ← required? victim, bug := ← required? bug }

/-- A player as the key of a member: the bare numeral, without escapes or leading zeros. -/
def seat? (key : List Char) : Option PlayerId :=
  match key with
  | '0' :: _ :: _ => none
  | key => (Text.below? UInt32.size key).map fun n => ⟨.ofNat n⟩

instance : Wire FrontCards where
  encode front := .object (front.entries.map fun e => (Text.digits e.1.number.toNat, encode e.2))
  decode?
    | .object members =>
      members.foldlM (fun front member => do
        let id ← seat? member.1
        let cards ← decode? member.2
        some (front.set id cards)) FrontCards.empty
    | _ => none

instance : Wire GameState where
  encode state := .record
    [("id", encode state.id), ("players", encode state.players),
      ("draw_pile", encode state.drawPile), ("discard_heap", encode state.discardHeap),
      ("front_cards", encode state.frontCards), ("turn", encode state.turn),
      ("current", encode state.current), ("pending_attack", encode state.pendingAttack)]
  decode? value := do
    let fields ← value.fields? ["id", "players", "draw_pile", "discard_heap", "front_cards",
      "turn", "current", "pending_attack"]
    let [id, players, drawPile, discardHeap, frontCards, turn, current, pendingAttack] := fields
      | none
    some
      { id := ← required? id, players := ← required? players, drawPile := ← required? drawPile,
        discardHeap := ← required? discardHeap, frontCards := ← required? frontCards,
        turn := ← required? turn, current := ← required? current,
        pendingAttack := ← optional? pendingAttack }

/-! ### Events -/

instance : Wire GameEvent where
  encode
    | .drawCards origin => .tagged "DrawCards" (.record [("origin", encode origin)])
    | .nextTurn origin => .tagged "NextTurn" (.record [("origin", encode origin)])
    | .reportBug origin victim bug => .tagged "ReportBug"
        (.record [("origin", encode origin), ("victim", encode victim), ("bug", encode bug)])
    | .reactWithCard origin victim card => .tagged "ReactWithCard"
        (.record [("origin", encode origin), ("victim", encode victim), ("card", encode card)])
    | .reactWithoutCard origin victim => .tagged "ReactWithoutCard"
        (.record [("origin", encode origin), ("victim", encode victim)])
    | .resolveStumbling origin via => .tagged "ResolveStumbling"
        (.record [("origin", encode origin), ("via", encode via)])
    | .discard origin cards => .tagged "Discard"
        (.record [("origin", encode origin), ("cards", encode cards)])
  decode? value := do
    let (name, content) ← value.variant?
    let content ← content
    match name with
    | "DrawCards" =>
      let [origin] ← content.fields? ["origin"] | none
      some (.drawCards (← required? origin))
    | "NextTurn" =>
      let [origin] ← content.fields? ["origin"] | none
      some (.nextTurn (← required? origin))
    | "ReportBug" =>
      let [origin, victim, bug] ← content.fields? ["origin", "victim", "bug"] | none
      some (.reportBug (← required? origin) (← required? victim) (← required? bug))
    | "ReactWithCard" =>
      let [origin, victim, card] ← content.fields? ["origin", "victim", "card"] | none
      some (.reactWithCard (← required? origin) (← required? victim) (← required? card))
    | "ReactWithoutCard" =>
      let [origin, victim] ← content.fields? ["origin", "victim"] | none
      some (.reactWithoutCard (← required? origin) (← required? victim))
    | "ResolveStumbling" =>
      let [origin, via] ← content.fields? ["origin", "via"] | none
      some (.resolveStumbling (← required? origin) (← optional? via))
    | "Discard" =>
      let [origin, cards] ← content.fields? ["origin", "cards"] | none
      some (.discard (← required? origin) (← required? cards))
    | _ => none

instance {κ : Type} [Wire κ] : Wire (Selector κ) where
  encode
    | .tag k => .tagged "Tag" (encode k)
    | .anyOf ks => .tagged "AnyOf" (encode ks)
  decode? value :=
    match value.variant? with
    | some ("Tag", some content) => (decode? content).map .tag
    | some ("AnyOf", some content) => (decode? content).map .anyOf
    | _ => none

/-! ### Configurations -/

/-- A field that may be left out for a default. -/
def withDefault? {α : Type} [Wire α] (default : α) : Option Json → Option α
  | none => some default
  | some value => decode? value

instance : Wire TableConfig where
  encode config := .record
    [("draw_count", encode config.drawCount), ("hand_size", encode config.handSize),
      ("starting_prestige", encode config.startingPrestige)]
  decode? value := do
    let [drawCount, handSize, startingPrestige] ←
      value.fieldsOrFewer? ["draw_count", "hand_size", "starting_prestige"] | none
    let defaults : TableConfig := {}
    some
      { drawCount := ← withDefault? defaults.drawCount drawCount
        handSize := ← withDefault? defaults.handSize handSize
        startingPrestige := ← withDefault? defaults.startingPrestige startingPrestige }

end Wire

/-- Reads the JSON text of a configuration that tables accept. -/
def TableConfig.ofJson (text : List Char) : Except ConfigError TableConfig :=
  match Wire.ofText? text with
  | some config => validate config
  | none => .error .malformed

end RoundTable
