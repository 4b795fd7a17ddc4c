import RoundTable.Json.Quoted

/-!
# Universally unique identifiers

An identifier is its thirty-two hexadecimal digits. It is written in groups of 8, 4, 4, 4 and 12
lower-case digits with hyphens between them; it is read in that form, bare or in braces or after
`urn:uuid:`, or as thirty-two digits without hyphens, every letter in either case.

## Main definitions

* `Uuid`, `Uuid.zero`: identifiers
* `Uuid.write`, `Uuid.read?`: their text
-/

namespace RoundTable

/-- A universally unique identifier. -/
structure Uuid where
  /-- The hexadecimal digits, most significant first. -/
  digits : List (Fin 16)
  /-- There are thirty-two digits. -/
  length_digits : digits.length = 32
  deriving DecidableEq

namespace Uuid

/-- The identifier all of whose digits are zero. -/
def zero : Uuid := ⟨List.replicate 32 0, List.length_replicate⟩

/-- The lengths of the groups that hyphens separate, the last one left out. -/
def groups : List Nat := [8, 4, 4, 4]

/-- A text with a hyphen after each of the given lengths. -/
def hyphenate : List Nat → List Char → List Char
  | [], text => text
  | n :: lengths, text => text.take n ++ '-' :: hyphenate lengths (text.drop n)

/-- The text without the hyphens after each of the given lengths, which have to be there. -/
def unhyphenate? : List Nat → List Char → Option (List Char)
  | [], text => some text
  | n :: lengths, text =>
    match text.drop n with
    | '-' :: rest => (unhyphenate? lengths rest).map (text.take n ++ ·)
    | _ => none

/-- The digits with hyphens between the groups, in lower case. -/
def write (id : Uuid) : List Char :=
  hyphenate groups (id.digits.map fun d => Json.hexDigit d.val)

/-- A hexadecimal digit of either case. -/
def digit? (c : Char) : Option (Fin 16) :=
  (Json.hexValue? c).bind fun n => if h : n < 16 then some ⟨n, h⟩ else none

/-- Thirty-two digits as an identifier. -/
def ofDigits? (text : List Char) : Option Uuid :=
  (text.mapM digit?).bind fun digits =>
    if h : digits.length = 32 then some ⟨digits, h⟩ else none

/-- An identifier with hyphens between its groups. -/
def hyphenated? (text : List Char) : Option Uuid :=
  (unhyphenate? groups text).bind ofDigits?

/-- What may stand in front of an identifier to say that it is one. -/
def scheme : List Char := ['u', 'r', 'n', ':', 'u', 'u', 'i', 'd', ':']

/-- An identifier in any of its written forms. -/
def read? (text : List Char) : Option Uuid :=
  match text with
  | '\x7b' :: rest => if rest.getLast? = some '\x7d' then hyphenated? rest.dropLast else none
  | text =>
    if (text.take scheme.length).map Char.toLower = scheme then
      hyphenated? (text.drop scheme.length)
    else if text.length = 32 then ofDigits? text
    else hyphenated? text

end Uuid

end RoundTable
