import RoundTable.Catalogue
import RoundTable.Json.Reader
import RoundTable.Json.Writer
import RoundTable.Text.Numeral

/-!
# The shape of typed values

How values of structured types stand in JSON. A constant of a catalogue is its name; an alternative
with content is an object with one member, named for the alternative; a structure is an object with
a member per field.

Reading is generous where nothing can be misunderstood. The members of a structure may come in any
order and among members of other names, an optional field may be left out, and a structure may also
be an array of all its fields in order. A field that occurs twice is refused. A constant may be
written like an alternative with content `null`.

## Main definitions

* `Json.text`, `Json.nat`, `Json.tagged`, `Json.record`: building the shapes
* `Json.text?`, `Json.below?`, `Json.variant?`, `Json.fields?`: taking them apart
* `Wire`: types whose values travel as JSON
* `Wire.toText`, `Wire.ofText?`: the text of a value and back
-/

namespace RoundTable

namespace Json

/-! ### Building -/

/-- The string of a text. -/
def text (s : String) : Json := .string (escape s.toList)

/-- The number of a natural number. -/
def nat (n : Nat) : Json := .number (Text.digits n)

/-- The number of an integer. -/
def int (n : Int) : Json :=
  .number (if n < 0 then '-' :: Text.digits n.natAbs else Text.digits n.natAbs)

/-- An object with the given member names. -/
def record (members : List (String × Json)) : Json :=
  .object (members.map fun m => (escape m.1.toList, m.2))

/-- An alternative with content. -/
def tagged (name : String) (content : Json) : Json := record [(name, content)]

/-! ### Taking apart -/

/-- The text of a string. -/
def text? : Json → Option String
  | .string raw => (unescape? raw).map String.ofList
  | _ => none

/-- A natural number below the limit, written without sign, fraction and exponent. -/
def below? (limit : Nat) : Json → Option Nat
  | .number literal => Text.below? limit literal
  | _ => none

/-- A signed integer of the given number of bits; `-0` is none. -/
def signed? (bits : Nat) : Json → Option Int
  | .number ('-' :: literal) =>
    (Text.below? (Nat.pow 2 (bits - 1) + 1) literal).bind fun n => if n = 0 then none else some (-n)
  | .number literal => (Text.below? (Nat.pow 2 (bits - 1)) literal).map Int.ofNat
  | _ => none

/-- The value of a truth literal. -/
def bool? : Json → Option Bool
  | .bool b => some b
  | _ => none

/-- The items of an array. -/
def items? : Json → Option (List Json)
  | .array items => some items
  | _ => none

/-- The members of an object under the texts of their keys. -/
def members? : Json → Option (List (String × Json))
  | .object members => members.mapM fun m => (unescape? m.1).map fun key => (String.ofList key, m.2)
  | _ => none

/-- An alternative by name, with its content if it is written with any. -/
def variant? : Json → Option (String × Option Json)
  | .string raw => (unescape? raw).map fun name => (String.ofList name, none)
  | .object [(key, content)] => (unescape? key).map fun name => (String.ofList name, some content)
  | _ => none

/-- Whether an alternative has no content to speak of. -/
def isBare : Option Json → Bool
  | none => true
  | some .null => true
  | some _ => false

/-- The member of a name: `some none` if there is none, `none` if there are several. -/
def member? (members : List (String × Json)) (name : String) : Option (Option Json) :=
  match members.filter fun m => m.1 == name with
  | [] => some none
  | [m] => some (some m.2)
  | _ => none

/-- The fields of a structure, in the given order; a field that is not there is `none`. An array
must have all of them. -/
def fields? (names : List String) : Json → Option (List (Option Json))
  | .array items => if items.length = names.length then some (items.map some) else none
  | value => value.members?.bind fun members => names.mapM (member? members)

/-- The same for a structure all of whose fields may be left out: its array may be shorter. -/
def fieldsOrFewer? (names : List String) : Json → Option (List (Option Json))
  | .array items =>
    if items.length ≤ names.length then
      some (items.map some ++ List.replicate (names.length - items.length) none)
    else none
  | value => value.members?.bind fun members => names.mapM (member? members)

end Json

/-! ### Types that travel -/

/-- Types whose values travel as JSON. -/
class Wire (α : Type) where
  /-- The JSON of a value. -/
  encode : α → Json
  /-- The value of a JSON tree, if it has the shape of one. -/
  decode? : Json → Option α

export Wire (encode decode?)

namespace Wire

variable {α : Type}

/-- The compact text of a value. -/
def toText [Wire α] (a : α) : List Char := (encode a).write

/-- The value that a text stands for. -/
def ofText? [Wire α] (text : List Char) : Option α := (Json.parse? text).bind decode?

/-- A field that has to be there. -/
def required? [Wire α] : Option Json → Option α
  | none => none
  | some value => decode? value

instance : Wire String := ⟨Json.text, Json.text?⟩

instance : Wire UInt32 :=
  ⟨fun n => .nat n.toNat, fun value => (value.below? UInt32.size).map UInt32.ofNat⟩

/-- Counts and positions are natural numbers; on the wire they fit 64 bits. -/
instance : Wire Nat := ⟨.nat, Json.below? UInt64.size⟩

instance [Wire α] : Wire (List α) where
  encode as := .array (as.map encode)
  decode? value := value.items?.bind fun items => items.mapM decode?

instance [Wire α] : Wire (Option α) where
  encode
    | none => .null
    | some a => encode a
  decode?
    | .null => some none
    | value => (decode? value).map some

/-- A field that may be left out for `none`. -/
def optional? [Wire α] : Option Json → Option (Option α)
  | none => some none
  | some value => decode? value

instance (priority := low) [Catalogue α] : Wire α where
  encode a := .text (Catalogue.name a)
  decode? value := value.variant?.bind fun v =>
    if Json.isBare v.2 then Catalogue.find? v.1 else none

end Wire

end RoundTable
