import RoundTable.Automaton.Send

/-!
# Stores that have settled

A store that holds no offer has nothing to do. Between two sends of one sender the store is always
like that, so all that a sender ever sees is what becomes of one offer to a store at rest: it is
folded, inspected, published and confirmed; or the inspector breaks down on it; or the loop was over
before.

## Main definitions

* `Store.held`, `Store.AtRest`: the offers under way, and stores without any
* `Store.Serves`: stores that deal with one given offer and nothing else

## Main results

* `Store.settle_of_next?`: to take a step does not change where the store ends up
* `Store.AtRest.settle_offer_of_closed`, `Store.AtRest.settle_offer_of_breaks`,
  `Store.AtRest.settle_offer`: what becomes of an offer to a store at rest
* `Store.Serves.move?`: a store goes on dealing with its one offer
-/

namespace RoundTable

namespace Store

variable {ε σ : Type}

/-! ### Taking steps and settling -/

theorem workload_advance? {store next : Store ε σ} (h : store.advance? = some next) :
    next.workload < store.workload := by
  rw [advance?] at h
  split at h
  case h_1 hs =>
    obtain ⟨offer, hslot, rfl⟩ := Option.map_eq_some_iff.mp h
    simp [workload, hs, hslot, Stage.remaining]
  case h_2 hs | h_4 hs | h_5 hs =>
    cases h
    simp [workload, hs, Stage.remaining]
  case h_3 hs =>
    dsimp only at h
    split at h
    case isTrue =>
      cases h
      simp only [workload, close, hs, Stage.remaining, Option.toList_none, List.length_nil]
      omega
    case isFalse =>
      cases h
      simp only [workload, hs, Stage.remaining]
      omega
  case h_6 => cases h

theorem workload_promote? {store next : Store ε σ} (h : store.promote? = some next) :
    next.workload < store.workload := by
  rw [promote?] at h
  split at h
  case h_1 hslot hwaiting =>
    cases h
    simp [workload, enter, hslot, hwaiting]
    omega
  case h_2 => cases h

theorem workload_next? {store next : Store ε σ} (h : store.next? = some next) :
    next.workload < store.workload := by
  rw [next?, Option.or_eq_some_iff] at h
  rcases h with h | ⟨-, h⟩
  · exact workload_advance? h
  · exact workload_promote? h

theorem run_of_next?_eq_none {store : Store ε σ} (h : store.next? = none) (n : Nat) :
    store.run n = store := by
  cases n with
  | zero => rfl
  | succ n => rw [run, h]

/-- More steps than the workload change nothing any more. -/
theorem run_eq_settle {store : Store ε σ} {n : Nat} (h : store.workload ≤ n) :
    store.run n = store.settle := by
  generalize hw : store.workload = w
  induction w using Nat.strongRecOn generalizing store n with
  | ind w ih =>
    subst hw
    cases hnext : store.next? with
    | none => rw [settle, run_of_next?_eq_none hnext, run_of_next?_eq_none hnext]
    | some next =>
      have hlt := workload_next? hnext
      -- with at least the workload to go, the first step leaves at least the workload of the rest
      have hstep : ∀ k, store.workload ≤ k → store.run k = next.settle := by
        intro k hk
        obtain ⟨k, rfl⟩ : ∃ j, k = j + 1 := ⟨k - 1, by omega⟩
        rw [run, hnext]
        exact ih _ hlt (by omega) rfl
      exact (hstep n h).trans (hstep _ (Nat.le_refl _)).symm

theorem settle_of_next? {store next : Store ε σ} (h : store.next? = some next) :
    next.settle = store.settle := by
  have hlt := workload_next? h
  rw [← run_eq_settle (Nat.le_succ store.workload), run, h]
  symm
  exact run_eq_settle (Nat.le_of_lt hlt)

/-! ### Stores at rest -/

/-- The offers that a store has not dealt with. -/
def held (store : Store ε σ) : List (Offer ε) :=
  store.stage.offer?.toList ++ store.slot.toList ++ store.waiting

/-- A store without any offer, whose next ticket is a new one. -/
structure AtRest (store : Store ε σ) : Prop where
  /-- No offer is under way. -/
  held : store.held = []
  /-- Every confirmed ticket was issued. -/
  fresh : ∀ ticket ∈ store.confirmed, ticket < store.issued

theorem atRest_opened (reduce : σ → ε → σ) (breaks : σ → Bool) (initial : σ) :
    (opened reduce breaks initial).AtRest :=
  ⟨rfl, by simp [opened]⟩

theorem held_eq_nil_iff {store : Store ε σ} :
    store.held = [] ↔ store.stage.offer? = none ∧ store.slot = none ∧ store.waiting = [] := by
  simp [held]

theorem holds_of_held_eq_nil {store : Store ε σ} (h : store.held = []) (ticket : Nat) :
    store.holds ticket = false := by
  have hany : store.holds ticket = store.held.any fun offer => offer.ticket == ticket := rfl
  rw [hany, h, List.any_nil]

theorem move?_of_held_eq_nil {store : Store ε σ} (h : store.held = []) (move : StoreMove) :
    store.move? move = none := by
  obtain ⟨hstage, hslot, hwaiting⟩ := held_eq_nil_iff.mp h
  cases move with
  | loop =>
    cases hs : store.stage <;> simp [hs, Stage.offer?] at hstage <;>
      simp [move?, advance?, hs, hslot]
  | line => simp [move?, promote?, hwaiting]

theorem settle_of_held_eq_nil {store : Store ε σ} (h : store.held = []) :
    store.settle = store := by
  have hloop : store.advance? = none := move?_of_held_eq_nil h .loop
  have hline : store.promote? = none := move?_of_held_eq_nil h .line
  exact run_of_next?_eq_none (by simp [next?, hloop, hline]) _

/-- To settle is to make moves. -/
theorem exists_moves_settle (store : Store ε σ) :
    ∃ moves : List StoreMove, moves.foldlM Store.move? store = some store.settle := by
  cases hnext : store.next? with
  | none => exact ⟨[], by rw [settle, run_of_next?_eq_none hnext]; rfl⟩
  | some next =>
    have hlt := workload_next? hnext
    obtain ⟨moves, hmoves⟩ := exists_moves_settle next
    obtain ⟨move, hmove⟩ : ∃ move, store.move? move = some next := by
      rw [next?, Option.or_eq_some_iff] at hnext
      obtain hloop | ⟨-, hline⟩ := hnext
      · exact ⟨.loop, hloop⟩
      · exact ⟨.line, hline⟩
    refine ⟨move :: moves, ?_⟩
    rw [List.foldlM_cons, hmove, ← settle_of_next? hnext]
    exact hmoves
termination_by store.workload
decreasing_by exact hlt

/-- A store without any offer has something to tell everybody. -/
theorem exists_commitResult? {store : Store ε σ} (hheld : store.held = []) (ticket : Nat) :
    ∃ result, store.commitResult? ticket = some result := by
  rw [commitResult?, holds_of_held_eq_nil hheld]
  split
  · exact ⟨_, rfl⟩
  · exact ⟨_, rfl⟩

/-- An offer to a store whose loop is over only uses up a ticket. -/
theorem offer_of_closed {store : Store ε σ} (hclosed : store.isClosed = true) (event : ε) :
    (store.offer event).1 = { store with issued := store.issued + 1 } := by
  have : isClosed { store with issued := store.issued + 1 } = true := hclosed
  simp [offer, this]

theorem AtRest.settle_offer_of_closed {store : Store ε σ} (hrest : store.AtRest)
    (hclosed : store.isClosed = true) (event : ε) :
    (store.offer event).1.settle = (store.offer event).1 := by
  rw [offer_of_closed hclosed]
  exact settle_of_held_eq_nil hrest.held

theorem AtRest.stage_eq_idle {store : Store ε σ} (hrest : store.AtRest)
    (hopen : store.isClosed = false) : store.stage = .idle := by
  have hstage := (held_eq_nil_iff.mp hrest.held).1
  cases hs : store.stage <;> simp_all [Stage.offer?, isClosed]

/-- An offer to an open store at rest takes the slot. -/
theorem AtRest.offer_eq {store : Store ε σ} (hrest : store.AtRest)
    (hopen : store.isClosed = false) (event : ε) :
    (store.offer event).1 =
      { store with
        issued := store.issued + 1
        slot := some ⟨store.issued, event⟩
        entered := store.entered ++ [⟨store.issued, event⟩] } := by
  obtain ⟨-, hslot, hwaiting⟩ := held_eq_nil_iff.mp hrest.held
  have hnot : ¬isClosed { store with issued := store.issued + 1 } = true := by
    simpa [isClosed] using hopen
  rw [offer]
  dsimp only
  rw [if_neg hnot]
  simp [promote?, enter, hslot, hwaiting]

/-- An offer on which the inspector breaks down is shown to it, and the loop is over. -/
theorem AtRest.settle_offer_of_breaks {store : Store ε σ} (hrest : store.AtRest)
    (hopen : store.isClosed = false) {event : ε}
    (hbreaks : store.breaks (store.reduce store.payload.value event) = true) :
    (store.offer event).1.settle =
      { store with
        stage := .ended
        issued := store.issued + 1
        entered := store.entered ++ [⟨store.issued, event⟩]
        shown := store.shown ++ [store.reduce store.payload.value event] } := by
  obtain ⟨-, hslot, hwaiting⟩ := held_eq_nil_iff.mp hrest.held
  have hidle := hrest.stage_eq_idle hopen
  rw [hrest.offer_eq hopen, settle]
  simp [workload, Stage.remaining, run, next?, advance?, promote?, hidle, hbreaks, close, hwaiting,
    hslot]

/-- Any other offer is folded, inspected, published and confirmed. -/
theorem AtRest.settle_offer {store : Store ε σ} (hrest : store.AtRest)
    (hopen : store.isClosed = false) {event : ε}
    (hbreaks : store.breaks (store.reduce store.payload.value event) = false) :
    (store.offer event).1.settle =
      { store with
        payload := store.payload.publish (store.reduce store.payload.value event)
        issued := store.issued + 1
        entered := store.entered ++ [⟨store.issued, event⟩]
        confirmed := store.confirmed ++ [store.issued]
        shown := store.shown ++ [store.reduce store.payload.value event] } := by
  obtain ⟨-, hslot, hwaiting⟩ := held_eq_nil_iff.mp hrest.held
  have hidle := hrest.stage_eq_idle hopen
  rw [hrest.offer_eq hopen, settle]
  simp [workload, Stage.remaining, run, next?, advance?, hidle, hbreaks, hwaiting, hslot]

/-! ### Stores with one offer -/

/-- A store that deals with the offer of the given ticket, or has already done so, and with no
other. -/
structure Serves (store : Store ε σ) (ticket : Nat) : Prop where
  /-- Nobody is in line. -/
  waiting : store.waiting = []
  /-- What is held is the unconfirmed offer of the ticket. -/
  held : store.held = [] ∨
    ∃ event, store.held = [⟨ticket, event⟩] ∧ ticket ∉ store.confirmed
  /-- Nothing is held once the loop is over. -/
  lost : store.isClosed = true → store.held = []

theorem AtRest.serves_offer {store : Store ε σ} (hrest : store.AtRest) (event : ε) :
    (store.offer event).1.Serves store.issued := by
  obtain ⟨hstage, hslot, hwaiting⟩ := held_eq_nil_iff.mp hrest.held
  cases hclosed : store.isClosed with
  | true =>
    rw [offer_of_closed hclosed]
    exact ⟨hwaiting, .inl hrest.held, fun _ => hrest.held⟩
  | false =>
    rw [hrest.offer_eq hclosed]
    refine ⟨hwaiting, .inr ⟨event, ?_, fun h => Nat.lt_irrefl _ (hrest.fresh _ h)⟩, ?_⟩
    · simp [Store.held, hstage, hwaiting]
    · exact fun h => absurd (hclosed.symm.trans h) Bool.false_ne_true

theorem Serves.advance? {store next : Store ε σ} {ticket : Nat} (h : store.Serves ticket)
    (hnext : store.advance? = some next) : next.Serves ticket := by
  obtain ⟨hwaiting, hheld, -⟩ := h
  rw [Store.held, hwaiting, List.append_nil] at hheld
  rw [Store.advance?] at hnext
  split at hnext
  case h_1 hs =>
    obtain ⟨offer, hslot, rfl⟩ := Option.map_eq_some_iff.mp hnext
    refine ⟨hwaiting, .inr ?_, by simp [isClosed]⟩
    simpa [Store.held, Stage.offer?, hs, hslot, hwaiting] using hheld
  case h_2 hs | h_4 hs =>
    cases hnext
    refine ⟨hwaiting, .inr ?_, by simp [isClosed]⟩
    simpa [Store.held, Stage.offer?, hs, hwaiting] using hheld
  case h_3 hs =>
    dsimp only at hnext
    split at hnext <;> cases hnext
    · exact ⟨rfl, .inl rfl, fun _ => rfl⟩
    · refine ⟨hwaiting, .inr ?_, by simp [isClosed]⟩
      simpa [Store.held, Stage.offer?, hs, hwaiting] using hheld
  case h_5 offer hs =>
    cases hnext
    have hslot : store.slot = none := by
      cases hslot : store.slot <;> simp [Stage.offer?, hs, hslot] at hheld ⊢
    exact ⟨hwaiting, .inl (by simp [Store.held, Stage.offer?, hslot, hwaiting]),
      by simp [isClosed]⟩
  case h_6 => cases hnext

/-- Whoever takes a step, the store goes on dealing with its one offer, and will end up the same. -/
theorem Serves.move? {store next : Store ε σ} {ticket : Nat} (h : store.Serves ticket)
    {move : StoreMove} (hnext : store.move? move = some next) :
    next.Serves ticket ∧ next.settle = store.settle := by
  cases move with
  | loop =>
    have hnext : store.advance? = some next := hnext
    exact ⟨h.advance? hnext, settle_of_next? (by simp [next?, hnext])⟩
  | line => simp [Store.move?, promote?, h.waiting] at hnext

theorem Serves.foldlM_move? {store last : Store ε σ} {ticket : Nat}
    (h : store.Serves ticket) {moves : List StoreMove}
    (hmoves : moves.foldlM Store.move? store = some last) :
    last.Serves ticket ∧ last.settle = store.settle := by
  induction moves generalizing store with
  | nil =>
    cases hmoves
    exact ⟨h, rfl⟩
  | cons move moves ih =>
    obtain ⟨next, hmove, hrest⟩ := Option.bind_eq_some_iff.mp hmoves
    obtain ⟨hserves, hsettle⟩ := h.move? hmove
    obtain ⟨hlast, hend⟩ := ih hserves hrest
    exact ⟨hlast, hend.trans hsettle⟩

/-- Once there is something to learn about the offer, the store has settled. -/
theorem Serves.held_eq_nil {store : Store ε σ} {ticket : Nat} (h : store.Serves ticket)
    {result : Except StoreError Unit} (hresult : store.commitResult? ticket = some result) :
    store.held = [] := by
  rcases h.held with hheld | ⟨event, hheld, hnot⟩
  · exact hheld
  · have hholds : store.holds ticket = true := by
      have : store.holds ticket = store.held.any fun offer => offer.ticket == ticket := rfl
      simp [this, hheld]
    simp [commitResult?, hnot, hholds] at hresult

/-- As long as there is nothing to learn about the offer, the loop has something to do. -/
theorem Serves.exists_advance? {store : Store ε σ} {ticket : Nat} (h : store.Serves ticket)
    (hresult : store.commitResult? ticket = none) : ∃ next, store.advance? = some next := by
  have hheld : store.held ≠ [] := by
    intro hnil
    rw [commitResult?, holds_of_held_eq_nil hnil] at hresult
    split at hresult <;> simp at hresult
  cases hs : store.stage with
  | idle =>
    cases hslot : store.slot with
    | none => exact absurd (held_eq_nil_iff.mpr ⟨by rw [hs]; rfl, hslot, h.waiting⟩) hheld
    | some offer => exact ⟨_, by rw [Store.advance?, hs, hslot]; rfl⟩
  | inspecting offer payload =>
    rw [Store.advance?, hs]
    dsimp only
    split <;> exact ⟨_, rfl⟩
  | folding | publishing | confirming => exact ⟨_, by rw [Store.advance?, hs]⟩
  | ended => exact absurd (h.lost (by rw [isClosed, hs])) hheld

end Store

end RoundTable
