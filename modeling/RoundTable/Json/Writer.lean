import RoundTable.Json.Basic

/-!
# Writing JSON

The compact text of a syntax tree: no blanks, members in the order of the tree.

## Main definitions

* `Json.write`: the text as a list of characters
* `Json.render`: the same text as a string
-/

namespace RoundTable.Json

mutual

/-- The compact text of a value. -/
def write : Json → List Char
  | .null => ['n', 'u', 'l', 'l']
  | .bool true => ['t', 'r', 'u', 'e']
  | .bool false => ['f', 'a', 'l', 's', 'e']
  | .number literal => literal
  | .string raw => '"' :: raw ++ ['"']
  | .array [] => ['[', ']']
  | .array (item :: rest) => '[' :: write item ++ writeItems rest
  | .object [] => ['\x7b', '\x7d']
  | .object ((key, value) :: rest) =>
    '\x7b' :: '"' :: key ++ '"' :: ':' :: write value ++ writeMembers rest

/-- The further items of an array and its closing bracket. -/
def writeItems : List Json → List Char
  | [] => [']']
  | item :: rest => ',' :: write item ++ writeItems rest

/-- The further members of an object and its closing brace. -/
def writeMembers : List (List Char × Json) → List Char
  | [] => ['\x7d']
  | (key, value) :: rest =>
    ',' :: '"' :: key ++ '"' :: ':' :: write value ++ writeMembers rest

end

/-- The compact text of a value, as a string. -/
def render (value : Json) : String := String.ofList value.write

end RoundTable.Json
