import RoundTable.Player

/-!
# Cards in front of players

Cards may lie in front of players, seated or not. They are kept by player in ascending order of the
identifiers, so that two arrangements with the same cards are equal. An entry stays when its last
card is gone.

## Main definitions

* `FrontCards`: cards by player
* `FrontCards.get`, `FrontCards.set`, `FrontCards.modify`, `FrontCards.push`: access
-/

namespace RoundTable

/-- Cards by player, in ascending order of the players' identifiers. -/
structure FrontCards where
  /-- The entries. -/
  entries : List (PlayerId × List Card)
  /-- No player has two entries, and the entries are in order. -/
  sorted : entries.Pairwise fun a b => a.1 < b.1
  deriving DecidableEq

namespace FrontCards

/-- No cards in front of anybody. -/
def empty : FrontCards := ⟨[], .nil⟩

/-- The cards in front of a player. -/
def get (front : FrontCards) (id : PlayerId) : List Card :=
  ((front.entries.find? fun e => e.1 = id).map Prod.snd).getD []

/-- Puts an entry where it belongs, in place of one of the same player. -/
def put (id : PlayerId) (cards : List Card) :
    List (PlayerId × List Card) → List (PlayerId × List Card)
  | [] => [(id, cards)]
  | e :: rest =>
    if id < e.1 then (id, cards) :: e :: rest
    else if id = e.1 then (id, cards) :: rest
    else e :: put id cards rest

theorem mem_put {id : PlayerId} {cards : List Card} {entries : List (PlayerId × List Card)}
    {x : PlayerId × List Card} (h : x ∈ put id cards entries) :
    x = (id, cards) ∨ x ∈ entries := by
  induction entries with
  | nil => simpa [put] using h
  | cons e rest ih =>
    rw [put] at h
    split at h
    · simpa using h
    · split at h
      · simp only [List.mem_cons] at h ⊢
        exact h.imp_right .inr
      · simp only [List.mem_cons] at h ⊢
        rcases h with h | h
        · exact .inr (.inl h)
        · exact (ih h).imp_right .inr

theorem lt_of_not_lt_of_ne {a b : PlayerId} (h : ¬a < b) (hne : a ≠ b) : b < a := by
  have hne : a.number ≠ b.number := fun he => hne (by cases a; cases b; simp_all)
  have h : ¬a.number < b.number := h
  show b.number < a.number
  rw [UInt32.lt_iff_toNat_lt] at h ⊢
  have : a.number.toNat ≠ b.number.toNat := fun he => hne (UInt32.toNat_inj.mp he)
  omega

theorem lt_trans {a b c : PlayerId} (hab : a < b) (hbc : b < c) : a < c := by
  have hab : a.number < b.number := hab
  have hbc : b.number < c.number := hbc
  show a.number < c.number
  rw [UInt32.lt_iff_toNat_lt] at *
  omega

theorem pairwise_put {id : PlayerId} {cards : List Card} {entries : List (PlayerId × List Card)}
    (h : entries.Pairwise fun a b => a.1 < b.1) :
    (put id cards entries).Pairwise fun a b => a.1 < b.1 := by
  induction entries with
  | nil => simp [put]
  | cons e rest ih =>
    obtain ⟨hhead, hrest⟩ := List.pairwise_cons.mp h
    rw [put]
    split
    · next hlt =>
      refine List.pairwise_cons.mpr ⟨fun x hx => ?_, h⟩
      rcases List.mem_cons.mp hx with rfl | hx
      · exact hlt
      · exact lt_trans hlt (hhead x hx)
    · next hlt =>
      split
      · next heq => exact List.pairwise_cons.mpr ⟨fun x hx => heq ▸ hhead x hx, hrest⟩
      · next hne =>
        refine List.pairwise_cons.mpr ⟨fun x hx => ?_, ih hrest⟩
        rcases mem_put hx with rfl | hx
        · exact lt_of_not_lt_of_ne hlt hne
        · exact hhead x hx

/-- Gives a player an entry, in place of the present one. -/
def set (front : FrontCards) (id : PlayerId) (cards : List Card) : FrontCards :=
  ⟨put id cards front.entries, pairwise_put front.sorted⟩

/-- Changes the entry of a player, if there is one. -/
def modify (front : FrontCards) (id : PlayerId) (change : List Card → List Card) : FrontCards where
  entries := front.entries.map fun e => if e.1 = id then (e.1, change e.2) else e
  sorted := by
    refine List.pairwise_map.mpr (front.sorted.imp fun {a b} h => ?_)
    split <;> split <;> simpa using h

/-- Lays a card in front of a player, after those that lie there. -/
def push (front : FrontCards) (id : PlayerId) (card : Card) : FrontCards :=
  front.set id (front.get id ++ [card])

/-- The first stumbling card in front of a player. -/
def stumbling? (front : FrontCards) (id : PlayerId) : Option Card :=
  (front.get id).find? fun card => card.kind = .stumbling

end FrontCards

end RoundTable
