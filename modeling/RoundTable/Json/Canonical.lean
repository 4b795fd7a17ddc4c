import RoundTable.Json.Shape

/-!
# Canonical JSON

Two JSON texts may differ in what carries no meaning: the order of the members of an object, and the
choice of escapes. The canonical tree of a value has each object's members in ascending order of
their keys, the last one of several with the same key, and every string escaped as by writing.

## Main definitions

* `Json.canonical`: the canonical tree
-/

namespace RoundTable.Json

/-- The canonical body of a string; a body that stands for no text is left alone. -/
def canonicalBody (raw : List Char) : List Char :=
  match unescape? raw with
  | some text => escape text
  | none => raw

/-- Puts a member into an ascending list of members, in place of one with the same key. -/
def putMember (key : List Char) (value : Json) :
    List (List Char × Json) → List (List Char × Json)
  | [] => [(key, value)]
  | m :: rest =>
    if key = m.1 then (key, value) :: rest
    else if String.ofList ((unescape? key).getD key) < String.ofList ((unescape? m.1).getD m.1) then
      (key, value) :: m :: rest
    else m :: putMember key value rest

mutual

/-- The canonical tree of a value. -/
def canonical : Json → Json
  | .string raw => .string (canonicalBody raw)
  | .array items => .array (canonicalItems items)
  | .object members => .object (canonicalMembers members [])
  | value => value

/-- The canonical trees of several values. -/
def canonicalItems : List Json → List Json
  | [] => []
  | item :: rest => item.canonical :: canonicalItems rest

/-- Members put in order, each after those already there. -/
def canonicalMembers : List (List Char × Json) → List (List Char × Json) →
    List (List Char × Json)
  | [], sorted => sorted
  | (key, value) :: rest, sorted =>
    canonicalMembers rest (putMember (canonicalBody key) value.canonical sorted)

end

end RoundTable.Json
