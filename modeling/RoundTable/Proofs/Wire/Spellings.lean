import Mathlib.Data.List.Forall2
import Mathlib.Logic.Function.Basic
import RoundTable.Proofs.Wire.Lossless

/-!
# However it is written

A structure can be written in many ways: as an object whose members come in any order, between
members of other names, with keys written in escapes, and without fields that may be left out; or as
an array of all its fields. All of them are read as the same value, whatever the fields are written
like in their turn. A field that is written twice is never read, nor is a structure without a field
that has to be there.

How a type is read is said by its fields, one list for each alternative; the rest is the same for
all types.

## Main definitions

* `Wire.Field`, `Wire.Layout`: the fields of a value
* `Wire.Spells`, `Wire.Lists`: members and items that stand for fields
* `Wire.Structured`: types whose values have fields
* `Wire.ReadHowever`: types that are read however they are written

## Main results

* `Wire.Assembles.decode?_of_spells`, `Wire.Assembles.decode?_of_lists`: what is read
* `Wire.read_however_written`: all types with fields are read however they are written
-/

namespace RoundTable

/-! ### Members of a name -/

namespace Json

/-- The values of the members of a name. -/
def valuesOf (members : List (String × Json)) (name : String) : List Json :=
  (members.filter fun m => m.1 == name).map Prod.snd

variable {members : List (String × Json)} {names : List String} {name : String}

theorem member?_eq (members : List (String × Json)) (name : String) :
    member? members name =
      if (valuesOf members name).length ≤ 1 then some (valuesOf members name).head? else none := by
  rw [member?, valuesOf]
  generalize (members.filter fun m => m.1 == name) = found
  obtain _ | ⟨m, _ | ⟨other, rest⟩⟩ := found
  · rfl
  · rfl
  · exact (if_neg (by simp)).symm

/-- Members of names that occur once at most are found. -/
theorem mapM_member?_of_length_le (h : ∀ name ∈ names, (valuesOf members name).length ≤ 1) :
    names.mapM (member? members) = some (names.map fun name => (valuesOf members name).head?) := by
  induction names with
  | nil => rfl
  | cons name names ih =>
    obtain ⟨hname, hnames⟩ := List.forall_mem_cons.mp h
    rw [List.mapM_cons, member?_eq, if_pos hname, ih hnames]
    rfl

/-- A name that occurs twice spoils it all. -/
theorem mapM_member?_of_two_le (hname : name ∈ names) (h : 2 ≤ (valuesOf members name).length) :
    names.mapM (member? members) = none := by
  induction names with
  | nil => cases hname
  | cons first names ih =>
    rw [List.mapM_cons]
    obtain rfl | hrest := List.mem_cons.mp hname
    · rw [member?_eq, if_neg (by omega)]
      rfl
    · rw [ih hrest]
      cases member? members first <;> rfl

theorem fields?_of_members? {value : Json} (h : value.members? = some members) :
    value.fields? names = names.mapM (member? members) := by
  cases value with
  | object raw =>
    rw [fields?, h, Option.bind_some]
    intro items hitems
    cases hitems
  | _ => cases h

theorem fieldsOrFewer?_of_members? {value : Json} (h : value.members? = some members) :
    value.fieldsOrFewer? names = names.mapM (member? members) := by
  cases value with
  | object raw =>
    rw [fieldsOrFewer?, h, Option.bind_some]
    intro items hitems
    cases hitems
  | _ => cases h

end Json

namespace Wire

/-! ### Fields -/

/-- A field of a value: its name, what is in it, and what it is taken for where it is left out. -/
structure Field where
  /-- The name. -/
  name : String
  /-- The type of the content. -/
  {Content : Type}
  /-- The content travels. -/
  [wire : Wire Content]
  /-- What is in the field. -/
  content : Content
  /-- What the field is taken for where it is left out, if it may be. -/
  absent : Option Content

namespace Field

variable {α : Type} [Wire α] {name : String} {written : Option Json}

/-- A field that has to be there. -/
def required (name : String) (content : α) : Field := ⟨name, content, none⟩

/-- A field that may be left out for `none`. -/
def optional (name : String) (content : Option α) : Field := ⟨name, content, some none⟩

/-- A field that may be left out for a default. -/
def defaulted (name : String) (default content : α) : Field := ⟨name, content, some default⟩

@[simp] theorem name_required {content : α} : (required name content).name = name := rfl

@[simp] theorem name_optional {content : Option α} : (optional name content).name = name := rfl

@[simp] theorem name_defaulted {default content : α} :
    (defaulted name default content).name = name := rfl

@[simp] theorem absent_required {content : α} : (required name content).absent = none := rfl

@[simp] theorem absent_optional {content : Option α} :
    (optional name content).absent = some none := rfl

@[simp] theorem absent_defaulted {default content : α} :
    (defaulted name default content).absent = some default := rfl

/-- What is written for the field stands for its content. -/
def Filled (field : Field) : Option Json → Prop
  | none => field.absent = some field.content
  | some value => field.wire.decode? value = some field.content

@[simp] theorem filled_required {content : α} :
    (required name content).Filled written ↔ required? written = some content := by
  cases written with
  | none => exact iff_of_false nofun nofun
  | some value => exact Iff.rfl

@[simp] theorem filled_optional {content : Option α} :
    (optional name content).Filled written ↔ optional? written = some content := by
  cases written <;> exact Iff.rfl

@[simp] theorem filled_defaulted {default content : α} :
    (defaulted name default content).Filled written ↔
      withDefault? default written = some content := by
  cases written <;> exact Iff.rfl

end Field

/-- How a value is laid out: in fields, and under a name if its type has several alternatives. -/
structure Layout where
  /-- The name of the alternative. -/
  tag : Option String
  /-- The fields, in order. -/
  fields : List Field

namespace Layout

/-- The names of the fields. -/
def names (layout : Layout) : List String := layout.fields.map Field.name

/-- The JSON of a value, and in it that of its fields. -/
def Wraps (layout : Layout) (value content : Json) : Prop :=
  match layout.tag with
  | none => value = content
  | some name => ∃ key, Json.unescape? key = some name.toList ∧ value = .object [(key, content)]

/-- Where there are no alternatives, nothing stands around the fields. -/
theorem Wraps.decode?_eq {α : Type} [Wire α] {fields : List Field} {value content : Json}
    (h : Wraps ⟨none, fields⟩ value content) : (decode? value : Option α) = decode? content :=
  congrArg decode? h

/-- An alternative is found by its name. -/
theorem Wraps.bind_variant? {β : Type} {name : String} {fields : List Field}
    {value content : Json} (h : Wraps ⟨some name, fields⟩ value content)
    {k : String × Option Json → Option β} : value.variant?.bind k = k (name, some content) := by
  obtain ⟨key, hkey, rfl⟩ := h
  rw [Json.variant?, hkey]
  simp

end Layout

/-- Members that stand for fields: each field is written once, or left out where it may be. Members
of other names do not matter, and neither does the order. -/
def Spells (fields : List Field) (members : List (String × Json)) : Prop :=
  ∀ field ∈ fields,
    (∃ value, Json.valuesOf members field.name = [value] ∧ field.Filled (some value)) ∨
      Json.valuesOf members field.name = [] ∧ field.Filled none

/-- Items that stand for fields: one for each, in order. -/
def Lists (fields : List Field) (items : List Json) : Prop :=
  List.Forall₂ (fun field value => field.Filled (some value)) fields items

/-! ### Reading -/

variable {α : Type} [Wire α] {layout : Layout} {v : α} {make : List (Option Json) → Option α}
  {value content : Json} {members : List (String × Json)} {items : List Json} {field : Field}

/-- How a value is made of what is written for its fields. -/
structure Assembles (layout : Layout) (v : α) (make : List (Option Json) → Option α) : Prop where
  /-- No two fields have the same name. -/
  nodup : layout.names.Nodup
  /-- The fields are looked up by their names. -/
  object {value content : Json} {members : List (String × Json)}
    (hwraps : layout.Wraps value content) (hmembers : content.members? = some members) :
    (decode? value : Option α) = (layout.names.mapM (Json.member? members)).bind make
  /-- Items are taken one after another. -/
  array {value : Json} {items : List Json} (hwraps : layout.Wraps value (.array items))
    (hlength : items.length = layout.fields.length) :
    (decode? value : Option α) = make (items.map some)
  /-- Items are not missing, unless all of them may. -/
  shorter {value : Json} {items : List Json} (hwraps : layout.Wraps value (.array items))
    (hlength : items.length < layout.fields.length)
    (hrequired : ∃ field ∈ layout.fields, field.absent = none) :
    (decode? value : Option α) = none
  /-- The contents of the fields make the value. -/
  filled (written : String → Option Json)
    (hfilled : ∀ field ∈ layout.fields, field.Filled (written field.name)) :
    make (layout.names.map written) = some v
  /-- What has to be there has to be there. -/
  lacking (written : String → Option Json) : ∀ field ∈ layout.fields, field.absent = none →
    written field.name = none → make (layout.names.map written) = none

namespace Assembles

/-- A structure whose fields are looked up, or taken from an array with all of them. -/
theorem of_fields? {names : List String}
    (hread : ∀ {value content}, layout.Wraps value content →
      (decode? value : Option α) = (content.fields? names).bind make)
    (hnames : layout.names = names) (hnodup : names.Nodup)
    (hfilled : ∀ written : String → Option Json,
      (∀ field ∈ layout.fields, field.Filled (written field.name)) →
        make (names.map written) = some v)
    (hlacking : ∀ written : String → Option Json, ∀ field ∈ layout.fields, field.absent = none →
      written field.name = none → make (names.map written) = none) :
    Assembles layout v make := by
  subst hnames
  have hlayout : layout.names.length = layout.fields.length := List.length_map _
  refine ⟨hnodup, fun hwraps hmembers => ?_, fun hwraps hlength => ?_, fun hwraps hlength _ => ?_,
    hfilled, hlacking⟩
  · rw [hread hwraps, Json.fields?_of_members? hmembers]
  · rw [hread hwraps, Json.fields?, if_pos (hlength.trans hlayout.symm)]
    rfl
  · rw [hread hwraps, Json.fields?, if_neg (by omega)]
    rfl

/-- A structure that may be an array without the last of its fields, since no field has to be
there. -/
theorem of_fieldsOrFewer? {names : List String}
    (hread : ∀ {value content}, layout.Wraps value content →
      (decode? value : Option α) = (content.fieldsOrFewer? names).bind make)
    (hnames : layout.names = names) (hnodup : names.Nodup)
    (hopen : ∀ field ∈ layout.fields, field.absent ≠ none)
    (hfilled : ∀ written : String → Option Json,
      (∀ field ∈ layout.fields, field.Filled (written field.name)) →
        make (names.map written) = some v) :
    Assembles layout v make := by
  subst hnames
  have hlayout : layout.names.length = layout.fields.length := List.length_map _
  refine ⟨hnodup, fun hwraps hmembers => ?_, fun hwraps hlength => ?_, fun _ _ hrequired => ?_,
    hfilled, fun written field hfield habsent => absurd habsent (hopen field hfield)⟩
  · rw [hread hwraps, Json.fieldsOrFewer?_of_members? hmembers]
  · have hall := hlength.trans hlayout.symm
    rw [hread hwraps, Json.fieldsOrFewer?, if_pos (Nat.le_of_eq hall), hall, Nat.sub_self,
      List.replicate_zero, List.append_nil]
    rfl
  · obtain ⟨field, hfield, habsent⟩ := hrequired
    exact absurd habsent (hopen field hfield)

/-- **Members that spell the fields are read as the value.** -/
theorem decode?_of_spells (h : Assembles layout v make) (hwraps : layout.Wraps value content)
    (hmembers : content.members? = some members) (hspells : Spells layout.fields members) :
    decode? value = some v := by
  have hnames : ∀ name ∈ layout.names, (Json.valuesOf members name).length ≤ 1 := by
    intro name hname
    obtain ⟨field, hfield, rfl⟩ := List.mem_map.mp hname
    obtain ⟨value, honce, -⟩ | ⟨hleft, -⟩ := hspells field hfield
    · rw [honce]
      exact Nat.le_refl 1
    · rw [hleft]
      exact Nat.zero_le 1
  rw [h.object hwraps hmembers, Json.mapM_member?_of_length_le hnames]
  refine h.filled _ fun field hfield => ?_
  obtain ⟨value, honce, hfilled⟩ | ⟨hleft, hfilled⟩ := hspells field hfield
  · rwa [honce]
  · rwa [hleft]

/-- Items can be looked up by name, since no two fields have the same one. -/
theorem exists_written {fields : List Field} (hnodup : (fields.map Field.name).Nodup)
    (hlists : Lists fields items) :
    ∃ written : String → Option Json, (fields.map Field.name).map written = items.map some ∧
      ∀ field ∈ fields, field.Filled (written field.name) := by
  induction hlists with
  | nil => exact ⟨fun _ => none, rfl, nofun⟩
  | @cons field value fields items hfilled hlists ih =>
    obtain ⟨hfield, hrest⟩ := List.nodup_cons.mp hnodup
    obtain ⟨written, hwritten, hall⟩ := ih hrest
    have hother : ∀ name ∈ fields.map Field.name,
        Function.update written field.name (some value) name = written name := by
      intro name hname
      refine Function.update_of_ne ?_ _ _
      rintro rfl
      exact hfield hname
    refine ⟨Function.update written field.name (some value), ?_, ?_⟩
    · rw [List.map_cons, List.map_cons, List.map_cons, Function.update_self,
        List.map_congr_left hother, hwritten]
    · refine List.forall_mem_cons.mpr ⟨?_, fun other hmem => ?_⟩
      · rwa [Function.update_self]
      · rw [hother other.name (List.mem_map_of_mem hmem)]
        exact hall other hmem

/-- **Items that list the fields are read as the value.** -/
theorem decode?_of_lists (h : Assembles layout v make) (hwraps : layout.Wraps value (.array items))
    (hlists : Lists layout.fields items) : decode? value = some v := by
  obtain ⟨written, hwritten, hfilled⟩ := exists_written h.nodup hlists
  rw [h.array hwraps hlists.length_eq.symm, ← hwritten]
  exact h.filled written hfilled

/-- **A field that is written twice is not read.** -/
theorem decode?_of_two_le (h : Assembles layout v make) (hwraps : layout.Wraps value content)
    (hmembers : content.members? = some members) (hfield : field ∈ layout.fields)
    (htwice : 2 ≤ (Json.valuesOf members field.name).length) :
    (decode? value : Option α) = none := by
  have hname : field.name ∈ layout.names := List.mem_map_of_mem hfield
  rw [h.object hwraps hmembers, Json.mapM_member?_of_two_le hname htwice]
  rfl

/-- **A field that has to be there is not done without.** -/
theorem decode?_of_lacks (h : Assembles layout v make) (hwraps : layout.Wraps value content)
    (hmembers : content.members? = some members) (hfield : field ∈ layout.fields)
    (hrequired : field.absent = none) (hleft : Json.valuesOf members field.name = []) :
    (decode? value : Option α) = none := by
  by_cases hnames : ∀ name ∈ layout.names, (Json.valuesOf members name).length ≤ 1
  · rw [h.object hwraps hmembers, Json.mapM_member?_of_length_le hnames]
    exact h.lacking _ field hfield hrequired (by rw [hleft]; rfl)
  · obtain ⟨name, hspoiled⟩ := Classical.not_forall.mp hnames
    obtain ⟨hname, htwice⟩ := Classical.not_imp.mp hspoiled
    obtain ⟨other, hother, rfl⟩ := List.mem_map.mp hname
    exact h.decode?_of_two_le hwraps hmembers hother (Nat.lt_of_not_le htwice)

end Assembles

/-! ### Types with fields -/

/-- Types some of whose values have fields. -/
class Structured (α : Type) where
  /-- The fields of a value, if it is one that has fields. -/
  layout? : α → Option Layout

export Structured (layout?)

/-- Whatever the fields of a value are written like, in whatever order, and whatever is written
between them, the value is read; and nothing is read where a field is written twice or left out that
may not be left out. -/
structure ReadHowever (α : Type) [Wire α] [Structured α] : Prop where
  /-- An object is read by its members. -/
  spelled {v : α} {layout : Layout} {value content : Json} {members : List (String × Json)}
    (hlayout : layout? v = some layout) (hwraps : layout.Wraps value content)
    (hmembers : content.members? = some members) (hspells : Spells layout.fields members) :
    decode? value = some v
  /-- So is an array by its items. -/
  listed {v : α} {layout : Layout} {value : Json} {items : List Json}
    (hlayout : layout? v = some layout) (hwraps : layout.Wraps value (.array items))
    (hlists : Lists layout.fields items) : decode? value = some v
  /-- No field may be written twice. -/
  twice {v : α} {layout : Layout} {value content : Json} {members : List (String × Json)}
    {field : Field} (hlayout : layout? v = some layout) (hwraps : layout.Wraps value content)
    (hmembers : content.members? = some members) (hfield : field ∈ layout.fields)
    (htwice : 2 ≤ (Json.valuesOf members field.name).length) : (decode? value : Option α) = none
  /-- No field may be left out of an object that has to be there. -/
  lacks {v : α} {layout : Layout} {value content : Json} {members : List (String × Json)}
    {field : Field} (hlayout : layout? v = some layout) (hwraps : layout.Wraps value content)
    (hmembers : content.members? = some members) (hfield : field ∈ layout.fields)
    (hrequired : field.absent = none) (hleft : Json.valuesOf members field.name = []) :
    (decode? value : Option α) = none
  /-- No item may be left out of an array if there is a field that has to be there. -/
  shorter {v : α} {layout : Layout} {value : Json} {items : List Json}
    (hlayout : layout? v = some layout) (hwraps : layout.Wraps value (.array items))
    (hlength : items.length < layout.fields.length)
    (hrequired : ∃ field ∈ layout.fields, field.absent = none) : (decode? value : Option α) = none

theorem ReadHowever.of_assembles [Structured α]
    (h : ∀ (v : α) layout, layout? v = some layout → ∃ make, Assembles layout v make) :
    ReadHowever α where
  spelled hlayout hwraps hmembers hspells := (h _ _ hlayout).elim fun _ hmake =>
    hmake.decode?_of_spells hwraps hmembers hspells
  listed hlayout hwraps hlists := (h _ _ hlayout).elim fun _ hmake =>
    hmake.decode?_of_lists hwraps hlists
  twice hlayout hwraps hmembers hfield htwice := (h _ _ hlayout).elim fun _ hmake =>
    hmake.decode?_of_two_le hwraps hmembers hfield htwice
  lacks hlayout hwraps hmembers hfield hrequired hleft := (h _ _ hlayout).elim fun _ hmake =>
    hmake.decode?_of_lacks hwraps hmembers hfield hrequired hleft
  shorter hlayout hwraps hlength hrequired := (h _ _ hlayout).elim fun _ hmake =>
    hmake.shorter hwraps hlength hrequired

/-! ### The fields of each type -/

instance : Structured Player where
  layout? player := some
    { tag := none
      fields := [.required "id" player.id, .required "name" player.name,
        .required "role" player.role, .required "character" player.character,
        .required "mental_health" player.mentalHealth, .required "prestige" player.prestige,
        .required "cards" player.cards] }

instance : Structured PendingAttack where
  layout? attack := some
    { tag := none
      fields := [.required "attacker" attack.attacker, .required "victim" attack.victim,
        .required "bug" attack.bug] }

instance : Structured GameState where
  layout? state := some
    { tag := none
      fields := [.required "id" state.id, .required "players" state.players,
        .required "draw_pile" state.drawPile, .required "discard_heap" state.discardHeap,
        .required "front_cards" state.frontCards, .required "turn" state.turn,
        .required "current" state.current, .optional "pending_attack" state.pendingAttack] }

instance : Structured TurnReport where
  layout? report := some
    { tag := none
      fields := [.required "stumbling" report.stumbling, .required "drawn" report.drawn,
        .required "attack" report.attack, .required "discarded" report.discarded] }

instance : Structured TableConfig where
  layout? config := some
    { tag := none
      fields := [.defaulted "draw_count" 2 config.drawCount,
        .defaulted "hand_size" 0 config.handSize,
        .defaulted "starting_prestige" 3 config.startingPrestige] }

instance : Structured GameEvent where
  layout?
    | .drawCards origin => some ⟨some "DrawCards", [.required "origin" origin]⟩
    | .nextTurn origin => some ⟨some "NextTurn", [.required "origin" origin]⟩
    | .reportBug origin victim bug => some
        ⟨some "ReportBug",
          [.required "origin" origin, .required "victim" victim, .required "bug" bug]⟩
    | .reactWithCard origin victim card => some
        ⟨some "ReactWithCard",
          [.required "origin" origin, .required "victim" victim, .required "card" card]⟩
    | .reactWithoutCard origin victim => some
        ⟨some "ReactWithoutCard", [.required "origin" origin, .required "victim" victim]⟩
    | .resolveStumbling origin via => some
        ⟨some "ResolveStumbling", [.required "origin" origin, .optional "via" via]⟩
    | .discard origin cards => some
        ⟨some "Discard", [.required "origin" origin, .required "cards" cards]⟩

instance : Structured Request where
  layout?
    | .selectDiscardCards amount => some ⟨some "SelectDiscardCards", [.required "amount" amount]⟩
    | .attackPlayer target bug => some
        ⟨some "AttackPlayer", [.required "target" target, .required "bug" bug]⟩
    | .defendAttack defence => some ⟨some "DefendAttack", [.optional "defence" defence]⟩
    | .handleStumbling via => some ⟨some "HandleStumbling", [.optional "via" via]⟩
    | .discard cards => some ⟨some "Discard", [.required "cards" cards]⟩
    | _ => none

instance : Structured Command where
  layout?
    | .delegate origin call action => some
        ⟨some "ActionDelegate",
          [.required "origin" origin, .required "call" call, .required "action" action]⟩
    | .result origin call value => some
        ⟨some "Result",
          [.required "origin" origin, .required "call" call, .required "value" value]⟩

/-! ### Each type is read -/

theorem readHowever_player : ReadHowever Player := by
  refine .of_assembles fun player layout hlayout => ?_
  cases hlayout
  -- how a player is made of its fields is found by unfolding the reader
  refine ⟨_, .of_fields? (fun h => h.decode?_eq.trans (by rfl)) (by rfl) (by decide) ?_ ?_⟩ <;>
    simp +contextual [required?]

theorem readHowever_attack : ReadHowever PendingAttack := by
  refine .of_assembles fun attack layout hlayout => ?_
  cases hlayout
  refine ⟨_, .of_fields? (fun h => h.decode?_eq.trans (by rfl)) (by rfl) (by decide) ?_ ?_⟩ <;>
    simp +contextual [required?]

theorem readHowever_state : ReadHowever GameState := by
  refine .of_assembles fun state layout hlayout => ?_
  cases hlayout
  refine ⟨_, .of_fields? (fun h => h.decode?_eq.trans (by rfl)) (by rfl) (by decide) ?_ ?_⟩ <;>
    simp +contextual [required?]

theorem readHowever_report : ReadHowever TurnReport := by
  refine .of_assembles fun report layout hlayout => ?_
  cases hlayout
  refine ⟨_, .of_fields? (fun h => h.decode?_eq.trans (by rfl)) (by rfl) (by decide) ?_ ?_⟩ <;>
    simp +contextual [required?]

theorem readHowever_config : ReadHowever TableConfig := by
  refine .of_assembles fun config layout hlayout => ?_
  cases hlayout
  refine ⟨_, .of_fieldsOrFewer? (fun h => h.decode?_eq.trans (by rfl)) (by rfl) (by decide) ?_ ?_⟩
  · simp
  · simp +contextual

theorem readHowever_event : ReadHowever GameEvent := by
  refine .of_assembles fun event layout hlayout => ?_
  cases event <;> cases hlayout
  all_goals
    refine ⟨_, .of_fields? (fun h => h.bind_variant?.trans (by rfl)) (by rfl) (by decide) ?_ ?_⟩ <;>
      simp +contextual [required?]

theorem readHowever_request : ReadHowever Request := by
  refine .of_assembles fun request layout hlayout => ?_
  cases request <;> cases hlayout
  all_goals
    refine ⟨_, .of_fields? (fun h => h.bind_variant?.trans (by rfl)) (by rfl) (by decide) ?_ ?_⟩ <;>
      simp +contextual [required?]

theorem readHowever_command : ReadHowever Command := by
  refine .of_assembles fun command layout hlayout => ?_
  cases command <;> cases hlayout
  all_goals
    refine ⟨_, .of_fields? (fun h => h.bind_variant?.trans (by rfl)) (by rfl) (by decide) ?_ ?_⟩ <;>
      simp +contextual [required?]

/-- **Whatever has fields is read however it is written**: players, attacks, states, reports and
configurations, and the events, requests and commands with fields. -/
theorem read_however_written :
    ReadHowever Player ∧ ReadHowever PendingAttack ∧ ReadHowever GameState ∧
      ReadHowever TurnReport ∧ ReadHowever TableConfig ∧ ReadHowever GameEvent ∧
      ReadHowever Request ∧ ReadHowever Command :=
  ⟨readHowever_player, readHowever_attack, readHowever_state, readHowever_report,
    readHowever_config, readHowever_event, readHowever_request, readHowever_command⟩

/-- A report of a bug with an escape in its tag, whose members come in another order than the fields
and have a remark between them; the same with an origin written twice, or none; an attack as an
array; and a configuration without fields. -/
theorem read_however_written_mixed :
    let report (origin : List (String × Json)) : Json :=
      .object [("Report\\u0042ug".toList, .record
        ([("bug", .text "OffByOne"), ("remark", .object []), ("victim", .nat 2)] ++ origin))]
    decode? (report [("origin", .nat 1)]) = some (GameEvent.reportBug ⟨1⟩ ⟨2⟩ .offByOne) ∧
      (decode? (report [("origin", .nat 1), ("origin", .nat 1)]) : Option GameEvent) = none ∧
      (decode? (report []) : Option GameEvent) = none ∧
      decode? (.array [.nat 1, .nat 2, .text "OffByOne"]) =
        some (⟨⟨1⟩, ⟨2⟩, .offByOne⟩ : PendingAttack) ∧
      decode? (.object []) = some ({} : TableConfig) := by
  intro report
  obtain ⟨-, hattack, -, -, hconfig, hevent, -, -⟩ := read_however_written
  have hwraps (origin : List (String × Json)) : Layout.Wraps
      ⟨some "ReportBug", [.required "origin" (⟨1⟩ : PlayerId), .required "victim" (⟨2⟩ : PlayerId),
        .required "bug" BugReport.offByOne]⟩ (report origin) (.record
          ([("bug", .text "OffByOne"), ("remark", .object []), ("victim", .nat 2)] ++ origin)) :=
    ⟨_, by decide +kernel, rfl⟩
  have hone : decode? (Json.nat 1) = some (⟨1⟩ : PlayerId) := decode?_encode (⟨1⟩ : PlayerId)
  have htwo : decode? (Json.nat 2) = some (⟨2⟩ : PlayerId) := decode?_encode (⟨2⟩ : PlayerId)
  have hbug : decode? (Json.text "OffByOne") = some BugReport.offByOne :=
    decode?_encode BugReport.offByOne
  refine ⟨hevent.spelled rfl (hwraps _) (Json.members?_record _) ?_,
    hevent.twice (v := .reportBug ⟨1⟩ ⟨2⟩ .offByOne) rfl (hwraps _) (Json.members?_record _)
      List.mem_cons_self (by decide),
    hevent.lacks (v := .reportBug ⟨1⟩ ⟨2⟩ .offByOne) rfl (hwraps _) (Json.members?_record _)
      List.mem_cons_self rfl (by decide),
    hattack.listed rfl rfl (.cons hone (.cons htwo (.cons hbug .nil))),
    hconfig.spelled rfl rfl rfl ?_⟩
  · simp [Spells, Json.valuesOf, hone, htwo, hbug, required?]
  · simp [Spells, Json.valuesOf, withDefault?]

end Wire

end RoundTable
