import RoundTable.Text.Glyph

/-!
# The form of a value

A value can be shown as text in one uniform notation: words for constants, `Name(…)` for a
constructor with positions, `Name { field: … }` for one with named fields, square brackets for lists
and double quotes around text. Messages that name a phase or an event are written with it.

Quoted text escapes what could not be read off the page: the quote and the backslash, controls and
other characters that show nothing, and characters that would merge with their neighbour.

## Main definitions

* `Form`, `Form.render`: the notation and its text
* `HasForm`, `describe`: types whose values have a form
-/

namespace RoundTable.Text

/-! ### Quoted text -/

/-- A character as its code point in hexadecimal. -/
def codePoint (c : Char) : List Char :=
  ['\\', 'u', '\x7b'] ++ Nat.toDigits 16 c.toNat ++ ['\x7d']

/-- How one character is written between double quotes. -/
def quoteChar (c : Char) : List Char :=
  match c with
  | '\x00' => ['\\', '0']
  | '\t' => ['\\', 't']
  | '\n' => ['\\', 'n']
  | '\r' => ['\\', 'r']
  | '"' => ['\\', '"']
  | '\\' => ['\\', '\\']
  | c => if isExtending c || isHidden c then codePoint c else [c]

/-- The text between double quotes, with everything escaped that cannot be seen as it is. -/
def quote (text : String) : String :=
  String.ofList ('"' :: text.toList.flatMap quoteChar ++ ['"'])

/-! ### Forms -/

/-- How a value is put together, as far as its text shows it. -/
inductive Form where
  /-- A constant or a number. -/
  | word (text : String)
  /-- Text, to be quoted. -/
  | quoted (text : String)
  /-- A constructor with positional content. -/
  | tuple (name : String) (items : List Form)
  /-- A constructor with named fields; an incomplete one has more of them than it shows. -/
  | record (name : String) (fields : List (String × Form)) (complete : Bool)
  /-- A list. -/
  | list (items : List Form)

namespace Form

mutual

/-- The text of a form. -/
def render : Form → String
  | word text => text
  | quoted text => quote text
  | tuple name items => name ++ "(" ++ ", ".intercalate (renderItems items) ++ ")"
  | record name fields complete =>
    let parts := renderFields fields ++ (if complete then [] else [".."])
    if parts.isEmpty then name else name ++ " \x7b " ++ ", ".intercalate parts ++ " \x7d"
  | list items => "[" ++ ", ".intercalate (renderItems items) ++ "]"

/-- The texts of several forms. -/
def renderItems : List Form → List String
  | [] => []
  | item :: rest => item.render :: renderItems rest

/-- The texts of named fields. -/
def renderFields : List (String × Form) → List String
  | [] => []
  | (name, value) :: rest => (name ++ ": " ++ value.render) :: renderFields rest

end

end Form

/-- Types whose values have a form. -/
class HasForm.{u} (α : Type u) where
  /-- The form of a value. -/
  form : α → Form

export HasForm (form)

/-- The text of a value's form. -/
def describe.{u} {α : Type u} [HasForm α] (a : α) : String := (form a).render

instance : HasForm Nat := ⟨fun n => .word (String.ofList (Nat.toDigits 10 n))⟩

instance : HasForm Int := ⟨fun n =>
  .word (if n < 0 then "-" ++ toString n.natAbs else toString n.natAbs)⟩

instance : HasForm UInt32 := ⟨fun n => form n.toNat⟩

instance : HasForm Int64 := ⟨fun n => form n.toInt⟩

instance : HasForm String := ⟨.quoted⟩

instance {α : Type} [HasForm α] : HasForm (List α) := ⟨fun as => .list (as.map form)⟩

instance {α : Type} [HasForm α] : HasForm (Option α) := ⟨fun
  | none => .word "None"
  | some a => .tuple "Some" [form a]⟩

end RoundTable.Text
