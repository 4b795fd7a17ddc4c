import RoundTable.Text.Form

/-!
# Catalogues

A catalogue is a finite list of constants with a name each, such as the suits of a deck or the
phases of a turn. The names serve twice: they are what a message calls the constant, and what the
constant is called where values travel as text.

## Main definitions

* `Catalogue`: a type with its constants, in order, and their names
* `Catalogue.find?`: the constant of a name
* `Catalogue.rank`: the position of a constant in its catalogue
-/

namespace RoundTable

/-- A finite type whose constants are listed in order and have a name each. -/
class Catalogue (α : Type) where
  /-- Every constant, in the order of the catalogue. -/
  all : List α
  /-- The name of a constant. -/
  name : α → String

namespace Catalogue

variable {α : Type} [Catalogue α]

/-- The first constant with the given name. -/
def find? (text : String) : Option α :=
  (all : List α).find? fun a => name a == text

/-- The position of a constant in the catalogue. -/
def rank [BEq α] (a : α) : Nat :=
  (all : List α).findIdx (· == a)

instance (priority := low) : Text.HasForm α := ⟨fun a => .word (name a)⟩

end Catalogue

end RoundTable
