import RoundTable.Player

/-!
# Parties

Those who talk to each other: the server, and the participants, each of whom plays for one player.

## Main definitions

* `Party`: the server or a participant
-/

namespace RoundTable

/-- The server or a participant. -/
inductive Party where
  | server
  | participant (id : PlayerId)
  deriving DecidableEq

namespace Party

/-- How messages call a party. -/
instance : ToString Party := ⟨fun
  | server => "server"
  | participant id => "participant " ++ toString id⟩

instance : Text.HasForm Party where
  form
    | server => .word "Server"
    | participant id => .tuple "Participant" [Text.form id]

end Party

end RoundTable
