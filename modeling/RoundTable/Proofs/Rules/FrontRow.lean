import RoundTable.Proofs.Rules.Seats

/-!
# What lies in front of players

Only to deal with a stumbling card changes what lies in front of anybody, and it takes away one card:
the first one that the player has to deal with. All others stay where they lie.

## Main definitions

* `FrontCards.Blocked`: the first stumbling card in front of a player, and what lies around it
* `GameState.stumblingCards`: the cards that a player has to deal with

## Main results

* `FrontCards.stumbling?_eq_some_iff`: where the first stumbling card lies
* `GameState.pendingStumbling?_eq_head?`: the one that comes first is in the way
* `GameState.frontCards_after`, `GameState.stumblingCards_after`: what events do in front of players
-/

namespace RoundTable

/-- Whoever takes away the first element that passes a test leaves the others that do. -/
theorem filter_erase_of_find? {α : Type} [DecidableEq α] {p : α → Bool} {l : List α} {a : α}
    (h : l.find? p = some a) : (l.erase a).filter p = (l.filter p).tail := by
  induction l with
  | nil => cases h
  | cons first rest ih =>
    cases hfirst : p first with
    | true =>
      rw [List.find?_cons_of_pos hfirst] at h
      cases h
      rw [List.erase_cons_head, List.filter_cons_of_pos hfirst, List.tail_cons]
    | false =>
      have hrest : ¬p first = true := by simp [hfirst]
      rw [List.find?_cons_of_neg hrest] at h
      have hne : first ≠ a := by
        rintro rfl
        exact hrest (List.find?_some h)
      rw [List.erase_cons_tail (by simpa using hne), List.filter_cons_of_neg hrest,
        List.filter_cons_of_neg hrest, ih h]

/-- Only the entry of one player changes, if nothing comes of nothing. -/
theorem FrontCards.get_modify (front : FrontCards) (id other : PlayerId)
    {change : List Card → List Card} (hnil : change [] = []) :
    (front.modify id change).get other =
      if other = id then change (front.get other) else front.get other := by
  obtain ⟨entries, sorted⟩ := front
  simp only [get, modify]
  clear sorted
  induction entries with
  | nil => simp [hnil]
  | cons entry rest ih =>
    have hkey : (if entry.1 = id then (entry.1, change entry.2) else entry).1 = entry.1 := by
      split <;> rfl
    rw [List.map_cons]
    by_cases hother : entry.1 = other
    · rw [List.find?_cons_of_pos (by simpa [hkey] using hother),
        List.find?_cons_of_pos (by simpa using hother), hother]
      split <;> rfl
    · rw [List.find?_cons_of_neg (by simpa [hkey] using hother),
        List.find?_cons_of_neg (by simpa using hother)]
      exact ih

namespace FrontCards

/-- A player has one entry. -/
theorem get_of_mem {front : FrontCards} {entry : PlayerId × List Card}
    (h : entry ∈ front.entries) : front.get entry.1 = entry.2 := by
  obtain ⟨entries, sorted⟩ := front
  simp only [get]
  dsimp only at h
  induction entries with
  | nil => cases h
  | cons first rest ih =>
    obtain ⟨hhead, hrest⟩ := List.pairwise_cons.mp sorted
    obtain rfl | hmem := List.mem_cons.mp h
    · simp
    · have hne : first.1 ≠ entry.1 := by
        intro heq
        have hlt := hhead entry hmem
        rw [heq] at hlt
        exact UInt32.lt_irrefl _ hlt
      rw [List.find?_cons_of_neg (by simpa using hne)]
      exact ih hrest hmem

/-- It matters only what becomes of the cards that lie there. -/
theorem modify_congr {front : FrontCards} {id : PlayerId} {change change' : List Card → List Card}
    (h : change (front.get id) = change' (front.get id)) :
    front.modify id change = front.modify id change' := by
  rw [modify, modify, FrontCards.mk.injEq]
  refine List.map_congr_left fun entry hmem => ?_
  split
  case isTrue hid =>
    subst hid
    rw [get_of_mem hmem] at h
    rw [h]
  case isFalse => rfl

/-- In front of a player lie the cards `ahead`, then `block`, then the cards `behind`, and `block` is
the first stumbling card among them. -/
structure Blocked (front : FrontCards) (id : PlayerId) (ahead : List Card) (block : Card)
    (behind : List Card) : Prop where
  row : front.get id = ahead ++ block :: behind
  kind : block.kind = .stumbling
  first : ∀ card ∈ ahead, card.kind ≠ .stumbling

theorem stumbling?_eq_some_iff {front : FrontCards} {id : PlayerId} {block : Card} :
    front.stumbling? id = some block ↔ ∃ ahead behind, front.Blocked id ahead block behind := by
  rw [stumbling?, List.find?_eq_some_iff_append]
  constructor
  · rintro ⟨hkind, ahead, behind, hrow, hfirst⟩
    exact ⟨ahead, behind, hrow, by simpa using hkind, by simpa using hfirst⟩
  · rintro ⟨ahead, behind, hrow, hkind, hfirst⟩
    exact ⟨by simpa using hkind, ahead, behind, hrow, by simpa using hfirst⟩

/-- To take away a copy of the first stumbling card is to take away the first stumbling card. -/
theorem Blocked.erase {front : FrontCards} {id : PlayerId} {ahead behind : List Card} {block : Card}
    (h : front.Blocked id ahead block behind) : (front.get id).erase block = ahead ++ behind := by
  have hnot : block ∉ ahead := fun hmem => h.first block hmem h.kind
  rw [h.row, List.erase_append_right _ hnot, List.erase_cons_head]

theorem Blocked.modify_erase {front : FrontCards} {id : PlayerId} {ahead behind : List Card}
    {block : Card} (h : front.Blocked id ahead block behind) :
    (front.modify id fun row => row.erase block) = front.modify id fun _ => ahead ++ behind :=
  modify_congr h.erase

/-- All other cards stay where they lie. -/
theorem Blocked.get_modify {front : FrontCards} {id : PlayerId} {ahead behind : List Card}
    {block : Card} (h : front.Blocked id ahead block behind) (other : PlayerId) :
    (front.modify id fun _ => ahead ++ behind).get other =
      if other = id then ahead ++ behind else front.get other := by
  have hnil : (fun row : List Card => row.erase block) [] = [] := rfl
  rw [← h.modify_erase, FrontCards.get_modify front id other hnil]
  split
  case isTrue hother => rw [hother, h.erase]
  case isFalse => rfl

end FrontCards

namespace GameState

/-- The cards in front of a player that have to be dealt with. -/
def stumblingCards (state : GameState) (id : PlayerId) : List Card :=
  (state.frontCards.get id).filter fun card => card.kind = .stumbling

variable {state : GameState} {id other : PlayerId}

theorem pendingStumbling?_eq_head? (state : GameState) (id : PlayerId) :
    state.pendingStumbling? id = (state.stumblingCards id).head? :=
  List.head?_filter.symm

theorem pendingStumbling?_eq_none_iff :
    state.pendingStumbling? id = none ↔ (state.stumblingCards id).length = 0 := by
  rw [pendingStumbling?_eq_head?, List.head?_eq_none_iff, List.length_eq_zero_iff]

/-- Whether a player has to deal with a stumbling card is told by what lies in front. -/
theorem isSome_pendingStumbling?_iff :
    (state.pendingStumbling? id).isSome = true ↔
      ∃ ahead block behind, state.frontCards.Blocked id ahead block behind := by
  rw [Option.isSome_iff_exists]
  simp only [pendingStumbling?, FrontCards.stumbling?_eq_some_iff]
  exact exists_comm

theorem stumblingCards_congr {after : GameState} (h : after.frontCards = state.frontCards)
    (id : PlayerId) : after.stumblingCards id = state.stumblingCards id := by
  rw [stumblingCards, h, stumblingCards]

/-! ### Events -/

@[simp]
theorem frontCards_discardFromHand (state : GameState) (owner : PlayerId) (card : Card) :
    (state.discardFromHand owner card).frontCards = state.frontCards := by
  rw [discardFromHand]
  split <;> rfl

theorem frontCards_foldl_discardFromHand (state : GameState) (owner : PlayerId)
    (cards : List Card) :
    (cards.foldl (fun state card => state.discardFromHand owner card) state).frontCards =
      state.frontCards := by
  induction cards generalizing state with
  | nil => rfl
  | cons card cards ih => rw [List.foldl_cons, ih, frontCards_discardFromHand]

/-- Events leave alone what lies in front of players, but for the one that deals with it. -/
theorem frontCards_after {event : GameEvent} (h : event.kind ≠ .resolveStumbling)
    (drawCount : Nat) : (state.after event drawCount).frontCards = state.frontCards := by
  cases event with
  | drawCards | nextTurn | reactWithoutCard => rfl
  | reportBug | reactWithCard => exact state.frontCards_discardFromHand _ _
  | resolveStumbling => exact absurd rfl h
  | discard => exact state.frontCards_foldl_discardFromHand _ _

/-- The first stumbling card goes to the heap. -/
theorem clearStumbling_eq {ahead behind : List Card} {block : Card}
    (hblocked : state.frontCards.Blocked id ahead block behind) :
    state.clearStumbling id =
      { state with
        frontCards := state.frontCards.modify id fun _ => ahead ++ behind
        discardHeap := state.discardHeap ++ [block] } := by
  have hfirst : state.pendingStumbling? id = some block :=
    FrontCards.stumbling?_eq_some_iff.mpr ⟨ahead, behind, hblocked⟩
  rw [clearStumbling, hfirst]
  dsimp only
  rw [hblocked.modify_erase]

theorem stumblingCards_clearStumbling (state : GameState) (id other : PlayerId) :
    (state.clearStumbling id).stumblingCards other =
      if other = id then (state.stumblingCards other).tail else state.stumblingCards other := by
  cases hpending : state.pendingStumbling? id with
  | none =>
    have hnil := pendingStumbling?_eq_none_iff.mp hpending
    rw [List.length_eq_zero_iff] at hnil
    have hsame : state.clearStumbling id = state := by rw [clearStumbling, hpending]
    rw [hsame]
    split
    case isTrue heq => rw [heq, hnil, List.tail_nil]
    case isFalse => rfl
  | some card =>
    have herase : (fun front : List Card => front.erase card) [] = [] := rfl
    rw [clearStumbling, hpending, stumblingCards, FrontCards.get_modify _ _ _ herase]
    split
    case isTrue heq =>
      subst heq
      exact filter_erase_of_find? hpending
    case isFalse => rfl

theorem frontCards_resolveStumbling (state : GameState) (origin : PlayerId) (via : Option Card)
    (drawCount : Nat) :
    (state.after (.resolveStumbling origin via) drawCount).frontCards =
      (state.clearStumbling origin).frontCards := by
  cases via with
  | none => rfl
  | some card => exact (state.clearStumbling origin).frontCards_discardFromHand origin card

/-- **One card is taken away**, the first one in front of whoever deals with it. -/
theorem stumblingCards_after (state : GameState) (origin : PlayerId) (via : Option Card)
    (drawCount : Nat) (id : PlayerId) :
    (state.after (.resolveStumbling origin via) drawCount).stumblingCards id =
      if id = origin then (state.stumblingCards id).tail else state.stumblingCards id := by
  rw [stumblingCards_congr (state.frontCards_resolveStumbling origin via drawCount),
    stumblingCards_clearStumbling]

end GameState

end RoundTable
