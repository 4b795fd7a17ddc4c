/-!
# JSON texts

The syntax tree of a JSON text. Numbers and strings keep the characters they are written with, so
that reading and writing invent nothing: whether a number fits an integer type, or whether the
escapes of a string name characters, is the business of whoever asks for such a value.

An object keeps its members in the order of the text, repetitions included.

## Main definitions

* `Json`: syntax trees
-/

namespace RoundTable

/-- The syntax tree of a JSON text. -/
inductive Json where
  /-- The literal `null`. -/
  | null
  /-- One of the literals `true` and `false`. -/
  | bool (value : Bool)
  /-- A number, as its characters. -/
  | number (literal : List Char)
  /-- A string, as the characters between its quotes, escapes included. -/
  | string (raw : List Char)
  /-- An array. -/
  | array (items : List Json)
  /-- An object; keys are kept like strings. -/
  | object (members : List (List Char × Json))
  deriving Inhabited

end RoundTable
