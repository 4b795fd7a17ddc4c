import RoundTable.Json.Basic
import RoundTable.Json.Quoted

/-!
# Reading JSON

A strict reader for the JSON grammar: one value with nothing but blanks around it, no trailing
commas, no leading zeros, and no control characters inside strings. Nesting is bounded by the
length of the text only.

Each reading function returns what it read together with the rest of the text. The recursion over
nested values is driven by a number that bounds its depth; twice the length of the text is enough,
since two nested calls read at least one character between them.

## Main definitions

* `Json.readNumber?`: the longest number at the start of a text
* `Json.readValue?`: one value at the start of a text
* `Json.parse?`: the value that a whole text is
-/

namespace RoundTable.Json

/-- The blanks allowed between tokens. -/
def isGap (c : Char) : Bool := c == ' ' || c == '\t' || c == '\n' || c == '\r'

/-- The text after the blanks at its start. -/
def skipGap (text : List Char) : List Char := text.dropWhile isGap

/-! ### Numbers -/

/-- The whole part of a number: a zero alone, or digits that start with none. -/
def readWhole? : List Char → Option (List Char × List Char)
  | [] => none
  | c :: rest =>
    if c = '0' then some (['0'], rest)
    else if c.isDigit then some (c :: rest.takeWhile Char.isDigit, rest.dropWhile Char.isDigit)
    else none

/-- One or more digits. -/
def readDigits? : List Char → Option (List Char × List Char)
  | [] => none
  | c :: rest =>
    if c.isDigit then some (c :: rest.takeWhile Char.isDigit, rest.dropWhile Char.isDigit)
    else none

/-- The fraction of a number, possibly empty. -/
def readFraction? : List Char → Option (List Char × List Char)
  | '.' :: rest => (readDigits? rest).map fun r => ('.' :: r.1, r.2)
  | text => some ([], text)

/-- The exponent of a number, possibly empty. -/
def readExponent? : List Char → Option (List Char × List Char)
  | [] => some ([], [])
  | e :: rest =>
    if e = 'e' ∨ e = 'E' then
      match rest with
      | '+' :: rest => (readDigits? rest).map fun r => (e :: '+' :: r.1, r.2)
      | '-' :: rest => (readDigits? rest).map fun r => (e :: '-' :: r.1, r.2)
      | rest => (readDigits? rest).map fun r => (e :: r.1, r.2)
    else some ([], e :: rest)

/-- A number without a sign. -/
def readUnsigned? (text : List Char) : Option (List Char × List Char) := do
  let (whole, rest) ← readWhole? text
  let (fraction, rest) ← readFraction? rest
  let (exponent, rest) ← readExponent? rest
  return (whole ++ fraction ++ exponent, rest)

/-- The longest number at the start of a text. -/
def readNumber? : List Char → Option (List Char × List Char)
  | '-' :: rest => (readUnsigned? rest).map fun r => ('-' :: r.1, r.2)
  | text => readUnsigned? text

/-! ### Values -/

mutual

/-- One value at the start of a text, after blanks. -/
def readValue? : Nat → List Char → Option (Json × List Char)
  | 0, _ => none
  | depth + 1, text =>
    match skipGap text with
    | 'n' :: 'u' :: 'l' :: 'l' :: rest => some (.null, rest)
    | 't' :: 'r' :: 'u' :: 'e' :: rest => some (.bool true, rest)
    | 'f' :: 'a' :: 'l' :: 's' :: 'e' :: rest => some (.bool false, rest)
    | '"' :: rest => (scan? rest).map fun r => (.string r.1, r.2)
    | '[' :: rest =>
      match skipGap rest with
      | ']' :: rest => some (.array [], rest)
      | rest => (readItems? depth rest).map fun r => (.array r.1, r.2)
    | '\x7b' :: rest =>
      match skipGap rest with
      | '\x7d' :: rest => some (.object [], rest)
      | rest => (readMembers? depth rest).map fun r => (.object r.1, r.2)
    | rest => (readNumber? rest).map fun r => (.number r.1, r.2)

/-- The items of a nonempty array and its closing bracket. -/
def readItems? : Nat → List Char → Option (List Json × List Char)
  | 0, _ => none
  | depth + 1, text =>
    match readValue? depth text with
    | none => none
    | some (item, rest) =>
      match skipGap rest with
      | ',' :: rest => (readItems? depth rest).map fun r => (item :: r.1, r.2)
      | ']' :: rest => some ([item], rest)
      | _ => none

/-- The members of a nonempty object and its closing brace. -/
def readMembers? : Nat → List Char → Option (List (List Char × Json) × List Char)
  | 0, _ => none
  | depth + 1, text =>
    match skipGap text with
    | '"' :: rest =>
      match scan? rest with
      | none => none
      | some (key, rest) =>
        match skipGap rest with
        | ':' :: rest =>
          match readValue? depth rest with
          | none => none
          | some (value, rest) =>
            match skipGap rest with
            | ',' :: rest => (readMembers? depth rest).map fun r => ((key, value) :: r.1, r.2)
            | '\x7d' :: rest => some ([(key, value)], rest)
            | _ => none
        | _ => none
    | _ => none

end

/-- The value that the whole text is, blanks around it aside. -/
def parse? (text : List Char) : Option Json :=
  match readValue? (2 * text.length + 1) text with
  | some (value, rest) => if skipGap rest = [] then some value else none
  | none => none

end RoundTable.Json
