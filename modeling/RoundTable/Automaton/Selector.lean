import RoundTable.Text.Form

/-!
# Tags and selectors

An event carries a tag, and a selector picks events by their tag alone, whatever else they carry.

## Main definitions

* `Tagged`: event types with a tag
* `Selector`, `Selector.picks`: a tag or a list of tags
-/

namespace RoundTable

/-- Event types with tags of type `κ`. -/
class Tagged (ε : Type) (κ : outParam Type) where
  /-- The tag of an event. -/
  tag : ε → κ

export Tagged (tag)

/-- A choice of tags. -/
inductive Selector (κ : Type) where
  /-- One tag. -/
  | tag (tag : κ)
  /-- Any of several tags; none at all picks nothing. -/
  | anyOf (tags : List κ)
  deriving DecidableEq

namespace Selector

variable {κ : Type}

/-- Whether a selector picks a tag. -/
def picks [DecidableEq κ] : Selector κ → κ → Bool
  | tag expected, k => expected = k
  | anyOf expected, k => k ∈ expected

instance [Text.HasForm κ] : Text.HasForm (Selector κ) where
  form
    | tag k => .tuple "Tag" [Text.form k]
    | anyOf ks => .tuple "AnyOf" [Text.form ks]

end Selector

end RoundTable
