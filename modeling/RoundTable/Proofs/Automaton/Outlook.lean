import RoundTable.Proofs.Automaton.Sends

/-!
# What a store will come to

A store with offers under way has its future fixed: unless more is offered, the payload, the
confirmed tickets and what the inspector is shown depend on nothing but what the store holds now. No
step of the loop or of the line changes this outlook, and once nothing is held any more the outlook
is what there is.

## Main definitions

* `Outlook`, `Store.outlook`: what a store will come to
* `Store.Sound`: stores whose offers have tickets of their own

## Main results

* `Store.outlook_move?`: steps do not change the outlook
* `Store.outlook_offer`: an offer adds to it
* `Store.Sound.settle`: after all steps nothing is held
* `Outlook.exists_foldl_deal`: the offers that pass are the first ones, up to the one on which the
  inspector breaks down
-/

namespace RoundTable

/-- What a store comes to. -/
structure Outlook (σ : Type) where
  /-- The payload. -/
  payload : σ
  /-- The tickets that are confirmed. -/
  confirmed : List Nat
  /-- What the inspector is shown. -/
  shown : List σ
  /-- Whether the inspector never breaks down. -/
  isOpen : Bool

namespace Outlook

variable {ε σ : Type}

/-- The inspector is shown a payload, and, if it does not break down, the offer is confirmed. -/
def inspect (breaks : σ → Bool) (outlook : Outlook σ) (offer : Offer ε) (next : σ) : Outlook σ :=
  if breaks next then { outlook with shown := outlook.shown ++ [next], isOpen := false }
  else ⟨next, outlook.confirmed ++ [offer.ticket], outlook.shown ++ [next], true⟩

/-- An offer is dealt with, unless the loop is over. -/
def deal (reduce : σ → ε → σ) (breaks : σ → Bool) (outlook : Outlook σ) (offer : Offer ε) :
    Outlook σ :=
  if outlook.isOpen then outlook.inspect breaks offer (reduce outlook.payload offer.event)
  else outlook

variable {reduce : σ → ε → σ} {breaks : σ → Bool} {outlook : Outlook σ}

theorem foldl_deal_of_closed (h : outlook.isOpen = false) (offers : List (Offer ε)) :
    offers.foldl (deal reduce breaks) outlook = outlook := by
  induction offers with
  | nil => rfl
  | cons offer offers ih => rw [List.foldl_cons, deal, h, if_neg Bool.false_ne_true, ih]

theorem confirmed_inspect (outlook : Outlook σ) (offer : Offer ε) (next : σ) :
    (outlook.inspect breaks offer next).confirmed = outlook.confirmed ∨
      (outlook.inspect breaks offer next).confirmed = outlook.confirmed ++ [offer.ticket] := by
  rw [inspect]
  split
  · exact .inl rfl
  · exact .inr rfl

theorem confirmed_deal (reduce : σ → ε → σ) (breaks : σ → Bool) (outlook : Outlook σ)
    (offer : Offer ε) :
    (outlook.deal reduce breaks offer).confirmed = outlook.confirmed ∨
      (outlook.deal reduce breaks offer).confirmed = outlook.confirmed ++ [offer.ticket] := by
  rw [deal]
  split
  · exact confirmed_inspect outlook offer _
  · exact .inl rfl

theorem confirmed_subset_foldl_deal (offers : List (Offer ε)) :
    outlook.confirmed ⊆ (offers.foldl (deal reduce breaks) outlook).confirmed := by
  induction offers generalizing outlook with
  | nil => exact List.Subset.refl _
  | cons offer offers ih =>
    refine List.Subset.trans ?_ (@ih (outlook.deal reduce breaks offer))
    obtain h | h := confirmed_deal reduce breaks outlook offer <;> simp [h]

/-- Only what is offered is confirmed. -/
theorem mem_confirmed_foldl_deal {offers : List (Offer ε)} {ticket : Nat}
    (h : ticket ∈ (offers.foldl (deal reduce breaks) outlook).confirmed) :
    ticket ∈ outlook.confirmed ∨ ticket ∈ offers.map Offer.ticket := by
  induction offers generalizing outlook with
  | nil => exact .inl h
  | cons offer offers ih =>
    rw [List.map_cons, List.mem_cons]
    obtain hmem | hmem := ih h
    · obtain heq | heq := confirmed_deal reduce breaks outlook offer
      · exact .inl (heq ▸ hmem)
      · rw [heq, List.mem_append, List.mem_singleton] at hmem
        exact hmem.imp_right .inl
    · exact .inr (.inr hmem)

/-- The payload after the first offers. -/
def snapshot (reduce : σ → ε → σ) (payload : σ) (offers : List (Offer ε)) (n : Nat) : σ :=
  ((offers.take n).map Offer.event).foldl reduce payload

/-- **The first offers pass.** As many offers pass as there are before the one on which the
inspector breaks down; it is shown the payload after each of them, and that one. -/
theorem exists_foldl_deal (reduce : σ → ε → σ) (breaks : σ → Bool) {outlook : Outlook σ}
    (hopen : outlook.isOpen = true) (offers : List (Offer ε)) :
    ∃ n ≤ offers.length,
      (∀ k < n, breaks (snapshot reduce outlook.payload offers (k + 1)) = false) ∧
      (n < offers.length → breaks (snapshot reduce outlook.payload offers (n + 1)) = true) ∧
      offers.foldl (deal reduce breaks) outlook =
        { payload := snapshot reduce outlook.payload offers n
          confirmed := outlook.confirmed ++ (offers.take n).map Offer.ticket
          shown := outlook.shown ++ (List.range (min (n + 1) offers.length)).map fun k =>
            snapshot reduce outlook.payload offers (k + 1)
          isOpen := decide (n = offers.length) } := by
  induction offers generalizing outlook with
  | nil =>
    refine ⟨0, Nat.le_refl 0, nofun, nofun, ?_⟩
    obtain ⟨payload, confirmed, shown, isOpen⟩ := outlook
    cases hopen
    simp [snapshot]
  | cons offer offers ih =>
    have hfirst (k : Nat) : snapshot reduce outlook.payload (offer :: offers) (k + 1) =
        snapshot reduce (reduce outlook.payload offer.event) offers k := rfl
    have hdeal : outlook.deal reduce breaks offer =
        outlook.inspect breaks offer (reduce outlook.payload offer.event) := if_pos hopen
    cases hbreaks : breaks (reduce outlook.payload offer.event) with
    | true =>
      rw [inspect, if_pos hbreaks] at hdeal
      refine ⟨0, Nat.zero_le _, nofun, fun _ => hbreaks, ?_⟩
      rw [List.foldl_cons, hdeal, foldl_deal_of_closed rfl]
      simp [snapshot]
    | false =>
      rw [inspect, if_neg (by simp [hbreaks])] at hdeal
      have hstill : (outlook.deal reduce breaks offer).isOpen = true := by rw [hdeal]
      obtain ⟨n, hle, hpass, hbreak, heq⟩ := ih hstill
      rw [hdeal] at hpass hbreak heq
      refine ⟨n + 1, Nat.succ_le_succ hle, ?_, fun hlt => ?_, ?_⟩
      · rintro (_ | k) hk
        · exact hbreaks
        · exact hpass k (Nat.lt_of_succ_lt_succ hk)
      · exact hbreak (Nat.lt_of_succ_lt_succ hlt)
      · rw [List.foldl_cons, hdeal, heq]
        have hrange : min (n + 1 + 1) (offers.length + 1) = min (n + 1) offers.length + 1 := by
          omega
        simp [hfirst, hrange, List.range_succ_eq_map, Function.comp_def]
        rfl

end Outlook

namespace Store

variable {ε σ : Type} {store next : Store ε σ}

/-! ### The outlook of a store -/

/-- What the store comes to with the offer that its loop works on. -/
def nearOutlook (store : Store ε σ) : Outlook σ :=
  let now : Outlook σ := ⟨store.payload.value, store.confirmed, store.shown, true⟩
  match store.stage with
  | .idle => now
  | .folding offer => now.deal store.reduce store.breaks offer
  | .inspecting offer next => now.inspect store.breaks offer next
  | .publishing offer next =>
    { now with payload := next, confirmed := now.confirmed ++ [offer.ticket] }
  | .confirming offer => { now with confirmed := now.confirmed ++ [offer.ticket] }
  | .ended => { now with isOpen := false }

/-- What the store comes to. -/
def outlook (store : Store ε σ) : Outlook σ :=
  (store.slot.toList ++ store.waiting).foldl (Outlook.deal store.reduce store.breaks)
    store.nearOutlook

theorem outlook_advance? (h : store.advance? = some next) : next.outlook = store.outlook := by
  rw [advance?] at h
  split at h
  case h_1 hs =>
    obtain ⟨offer, hslot, rfl⟩ := Option.map_eq_some_iff.mp h
    simp [outlook, nearOutlook, hs, hslot]
  case h_2 hs | h_4 hs | h_5 hs =>
    cases h
    simp [outlook, nearOutlook, hs, Outlook.deal, Published.publish]
  case h_3 offer payload hs =>
    dsimp only at h
    split at h
    case isTrue hbreaks =>
      cases h
      simp only [outlook, nearOutlook, hs, Outlook.inspect, if_pos hbreaks, close]
      rw [Outlook.foldl_deal_of_closed rfl, Outlook.foldl_deal_of_closed rfl]
    case isFalse hbreaks =>
      cases h
      simp [outlook, nearOutlook, hs, Outlook.inspect, hbreaks]
  case h_6 => cases h

/-- To move up the line is to stay under way. -/
theorem promote?_eq_some (h : store.promote? = some next) :
    ∃ offer rest, store.slot = none ∧ store.waiting = offer :: rest ∧
      next = enter { store with waiting := rest } offer := by
  rw [promote?] at h
  split at h
  case h_1 hslot hwaiting =>
    cases h
    exact ⟨_, _, hslot, hwaiting, rfl⟩
  case h_2 => cases h

theorem outlook_promote? (h : store.promote? = some next) : next.outlook = store.outlook := by
  obtain ⟨offer, rest, hslot, hwaiting, rfl⟩ := promote?_eq_some h
  simp [outlook, nearOutlook, enter, hslot, hwaiting]

/-- **Steps do not change the outlook.** -/
theorem outlook_move? {move : StoreMove} (h : store.move? move = some next) :
    next.outlook = store.outlook := by
  cases move with
  | loop => exact outlook_advance? h
  | line => exact outlook_promote? h

theorem outlook_run (store : Store ε σ) (n : Nat) : (store.run n).outlook = store.outlook := by
  induction n generalizing store with
  | zero => rfl
  | succ n ih =>
    rw [run]
    split
    case h_1 next hnext =>
      rw [ih]
      rw [next?, Option.or_eq_some_iff] at hnext
      rcases hnext with h | ⟨-, h⟩
      · exact outlook_advance? h
      · exact outlook_promote? h
    case h_2 => rfl

/-- The loop can confirm nothing but the offer that it works on. -/
theorem confirmed_nearOutlook (store : Store ε σ) :
    store.nearOutlook.confirmed = store.confirmed ∨
      ∃ offer, store.stage.offer? = some offer ∧
        store.nearOutlook.confirmed = store.confirmed ++ [offer.ticket] := by
  rw [nearOutlook]
  cases store.stage with
  | idle | ended => exact .inl rfl
  | folding offer => exact (Outlook.confirmed_deal _ _ _ offer).imp_right fun h => ⟨offer, rfl, h⟩
  | inspecting offer next =>
    exact (Outlook.confirmed_inspect _ offer next).imp_right fun h => ⟨offer, rfl, h⟩
  | publishing offer _ | confirming offer => exact .inr ⟨offer, rfl, rfl⟩

/-- What has been confirmed already stays so. -/
theorem confirmed_subset_outlook (store : Store ε σ) :
    store.confirmed ⊆ store.outlook.confirmed := by
  refine List.Subset.trans ?_ (Outlook.confirmed_subset_foldl_deal _)
  obtain h | ⟨offer, -, h⟩ := store.confirmed_nearOutlook <;> simp [h]

/-- What is not confirmed and not held will not be confirmed. -/
theorem mem_outlook_confirmed {ticket : Nat} (h : ticket ∈ store.outlook.confirmed) :
    ticket ∈ store.confirmed ∨ ticket ∈ store.held.map Offer.ticket := by
  have hheld : store.held.map Offer.ticket = store.stage.offer?.toList.map Offer.ticket ++
      (store.slot.toList ++ store.waiting).map Offer.ticket := by
    rw [held, List.append_assoc, List.map_append]
  rw [hheld, List.mem_append]
  obtain hnear | hlater := Outlook.mem_confirmed_foldl_deal h
  · obtain heq | ⟨offer, hoffer, heq⟩ := store.confirmed_nearOutlook
    · exact .inl (heq ▸ hnear)
    · rw [heq, List.mem_append] at hnear
      rw [hoffer]
      exact hnear.imp_right .inl
  · exact .inr (.inr hlater)

/-- Once nothing is held, the outlook is what there is. -/
theorem outlook_of_held_eq_nil (h : store.held = []) :
    store.outlook = ⟨store.payload.value, store.confirmed, store.shown, !store.isClosed⟩ := by
  obtain ⟨hstage, hslot, hwaiting⟩ := held_eq_nil_iff.mp h
  have hend : store.stage = .idle ∨ store.stage = .ended := by
    cases hs : store.stage <;> simp_all [Stage.offer?]
  obtain hs | hs := hend <;> simp [outlook, nearOutlook, isClosed, hs, hslot, hwaiting]

/-! ### Sound stores -/

/-- A store whose offers under way have tickets of their own, and which holds none once its loop is
over. -/
structure Sound (store : Store ε σ) : Prop where
  /-- No two offers under way have the same ticket. -/
  distinct : (store.held.map Offer.ticket).Nodup
  /-- What is under way has not been confirmed. -/
  unconfirmed : ∀ ticket ∈ store.held.map Offer.ticket, ticket ∉ store.confirmed
  /-- All tickets were issued. -/
  issued : ∀ ticket ∈ store.held.map Offer.ticket ++ store.confirmed, ticket < store.issued
  /-- Nothing is held once the loop is over. -/
  lost : store.isClosed = true → store.held = []

theorem AtRest.sound (h : store.AtRest) : store.Sound := by
  refine ⟨?_, ?_, ?_, fun _ => h.held⟩ <;> rw [h.held]
  · exact .nil
  · nofun
  · exact h.fresh

theorem Sound.atRest (h : store.Sound) (hheld : store.held = []) : store.AtRest :=
  ⟨hheld, fun ticket hmem => h.issued ticket (List.mem_append_right _ hmem)⟩

/-- Offers may leave, or be confirmed. -/
theorem Sound.of_sublist (h : store.Sound) (hissued : next.issued = store.issued)
    (hlost : next.isClosed = true → next.held = [])
    (hsub : (next.held.map Offer.ticket).Sublist (store.held.map Offer.ticket))
    (hconfirmed : ∀ ticket ∈ next.confirmed, ticket ∈ store.confirmed ∨
      ticket ∈ store.held.map Offer.ticket ∧ ticket ∉ next.held.map Offer.ticket) :
    next.Sound where
  distinct := h.distinct.sublist hsub
  unconfirmed ticket hmem hconf := by
    obtain hold | ⟨-, hnot⟩ := hconfirmed ticket hconf
    · exact h.unconfirmed ticket (hsub.subset hmem) hold
    · exact hnot hmem
  issued ticket hmem := by
    rw [hissued]
    refine h.issued ticket (List.mem_append.mpr ?_)
    obtain hmem | hmem := List.mem_append.mp hmem
    · exact .inl (hsub.subset hmem)
    · exact (hconfirmed ticket hmem).symm.imp_left And.left
  lost := hlost

/-- The loop lets offers go, but takes none in. -/
theorem sublist_held_advance? (h : store.advance? = some next) :
    next.held.Sublist store.held := by
  rw [advance?] at h
  split at h
  case h_1 hs =>
    obtain ⟨offer, hslot, rfl⟩ := Option.map_eq_some_iff.mp h
    simp [held, hs, hslot, Stage.offer?]
  case h_3 hs =>
    dsimp only at h
    split at h <;> cases h
    · exact List.nil_sublist _
    · simp [held, hs, Stage.offer?]
  case h_6 => cases h
  all_goals
    cases h
    simp [held, Stage.offer?, *]

theorem held_promote? (h : store.promote? = some next) : next.held = store.held := by
  obtain ⟨offer, rest, hslot, hwaiting, rfl⟩ := promote?_eq_some h
  simp [held, enter, hslot, hwaiting]

theorem sublist_held_move? {move : StoreMove} (h : store.move? move = some next) :
    next.held.Sublist store.held := by
  cases move with
  | loop => exact sublist_held_advance? h
  | line => exact held_promote? h ▸ List.Sublist.refl _

theorem Sound.advance? (h : store.Sound) (hnext : store.advance? = some next) : next.Sound := by
  have hsub := (sublist_held_advance? hnext).map Offer.ticket
  rw [Store.advance?] at hnext
  split at hnext
  case h_1 hs =>
    obtain ⟨offer, hslot, rfl⟩ := Option.map_eq_some_iff.mp hnext
    exact h.of_sublist rfl (by simp [isClosed]) hsub fun ticket hmem => .inl hmem
  case h_2 hs | h_4 hs =>
    cases hnext
    exact h.of_sublist rfl (by simp [isClosed]) hsub fun ticket hmem => .inl hmem
  case h_3 hs =>
    dsimp only at hnext
    split at hnext <;> cases hnext
    · exact h.of_sublist rfl (fun _ => rfl) hsub fun ticket hmem => .inl hmem
    · exact h.of_sublist rfl (by simp [isClosed]) hsub fun ticket hmem => .inl hmem
  case h_5 offer hs =>
    cases hnext
    have hheld : store.held = offer :: (store.slot.toList ++ store.waiting) := by
      simp [held, hs, Stage.offer?]
    have hdistinct := h.distinct
    rw [hheld, List.map_cons, List.nodup_cons] at hdistinct
    refine h.of_sublist rfl (by simp [isClosed]) hsub fun ticket hmem => ?_
    refine (List.mem_append.mp hmem).imp_right fun hmem => ?_
    rw [List.mem_singleton.mp hmem, hheld]
    exact ⟨List.mem_cons_self, hdistinct.1⟩
  case h_6 => cases hnext

theorem Sound.promote? (h : store.Sound) (hnext : store.promote? = some next) : next.Sound := by
  have hheld := held_promote? hnext
  obtain ⟨offer, rest, -, -, rfl⟩ := promote?_eq_some hnext
  refine h.of_sublist rfl ?_ ?_ fun ticket hmem => .inl hmem
  · rw [hheld]
    exact h.lost
  · exact hheld ▸ List.Sublist.refl _

theorem Sound.next? (h : store.Sound) (hnext : store.next? = some next) : next.Sound := by
  rw [Store.next?, Option.or_eq_some_iff] at hnext
  rcases hnext with hnext | ⟨-, hnext⟩
  · exact h.advance? hnext
  · exact h.promote? hnext

theorem Sound.move? (h : store.Sound) {move : StoreMove} (hnext : store.move? move = some next) :
    next.Sound := by
  cases move with
  | loop => exact h.advance? hnext
  | line => exact h.promote? hnext

/-! ### After all steps -/

/-- A store that holds something has something to do. -/
theorem Sound.held_eq_nil (h : store.Sound) (hnext : store.next? = none) : store.held = [] := by
  rw [Store.next?, Option.or_eq_none_iff] at hnext
  obtain ⟨hloop, hline⟩ := hnext
  rw [Store.advance?] at hloop
  split at hloop
  case h_1 hs =>
    have hslot : store.slot = none := by simpa using hloop
    cases hwaiting : store.waiting with
    | nil => simp [held, hs, hslot, hwaiting, Stage.offer?]
    | cons offer rest => simp [Store.promote?, hslot, hwaiting] at hline
  case h_3 =>
    dsimp only at hloop
    split at hloop <;> cases hloop
  case h_6 hs => exact h.lost (by rw [isClosed, hs])
  all_goals cases hloop

/-- **After all steps nothing is held.** -/
theorem Sound.settle {store : Store ε σ} (h : store.Sound) :
    store.settle.Sound ∧ store.settle.held = [] := by
  cases hnext : store.next? with
  | none =>
    rw [Store.settle, run_of_next?_eq_none hnext]
    exact ⟨h, h.held_eq_nil hnext⟩
  | some next =>
    rw [← settle_of_next? hnext]
    exact (h.next? hnext).settle
termination_by store.workload
decreasing_by exact workload_next? hnext

/-- So the store comes to what it had in prospect. -/
theorem Sound.outlook_settle (h : store.Sound) :
    store.outlook = ⟨store.settle.payload.value, store.settle.confirmed, store.settle.shown,
      !store.settle.isClosed⟩ := by
  rw [← outlook_of_held_eq_nil h.settle.2]
  exact (outlook_run store _).symm

/-! ### What became of an offer -/

/-- Once there is something to learn about an offer, it is known for good. -/
theorem commitResult?_eq_some {ticket : Nat} {result : Except StoreError Unit}
    (h : store.commitResult? ticket = some result) :
    (result = .ok () ↔ ticket ∈ store.outlook.confirmed) ∧
      (ticket ∉ store.confirmed → ticket ∉ store.held.map Offer.ticket) := by
  rw [commitResult?] at h
  split at h
  case isTrue hmem =>
    cases h
    exact ⟨by simp [store.confirmed_subset_outlook hmem], fun hnot => absurd hmem hnot⟩
  case isFalse hnot =>
    split at h
    case isTrue => cases h
    case isFalse hholds =>
      have hheld : ticket ∉ store.held.map Offer.ticket := by
        have hholds : ¬(store.held.any fun offer => offer.ticket == ticket) = true := hholds
        simpa using hholds
      cases h
      refine ⟨⟨fun hclosed => ?_, fun hmem => ?_⟩, fun _ => hheld⟩
      · cases hclosed
      · exact absurd (mem_outlook_confirmed hmem) (not_or.mpr ⟨hnot, hheld⟩)

/-! ### Offers -/

/-- An offer to an open store is held behind the others. -/
theorem held_offer (hopen : store.isClosed = false) (event : ε) :
    (store.offer event).1.held = store.held ++ [⟨store.issued, event⟩] := by
  have hnot : ¬isClosed { store with issued := store.issued + 1 } = true := by
    simpa [isClosed] using hopen
  rw [offer]
  dsimp only
  rw [if_neg hnot, Store.promote?]
  cases hslot : store.slot with
  | some other => simp [held, hslot]
  | none =>
    cases hwaiting : store.waiting with
    | nil => simp [held, enter, hslot, hwaiting]
    | cons first rest => simp [held, enter, hslot, hwaiting]

/-- An offer leaves alone what everybody sees. -/
theorem offer_eq (hopen : store.isClosed = false) (event : ε) :
    ∃ slot waiting entered, (store.offer event).1 =
      { store with slot, waiting, entered, issued := store.issued + 1 } := by
  have hnot : ¬isClosed { store with issued := store.issued + 1 } = true := by
    simpa [isClosed] using hopen
  rw [offer]
  dsimp only
  rw [if_neg hnot, Store.promote?]
  split
  · exact ⟨_, _, _, rfl⟩
  · exact ⟨_, _, _, rfl⟩

theorem Sound.offer (h : store.Sound) (hopen : store.isClosed = false) (event : ε) :
    (store.offer event).1.Sound := by
  have hheld := held_offer hopen event
  obtain ⟨slot, waiting, entered, heq⟩ := offer_eq hopen event
  have hfresh : store.issued ∉ store.held.map Offer.ticket ++ store.confirmed :=
    fun hmem => Nat.lt_irrefl _ (h.issued _ hmem)
  rw [List.mem_append, not_or] at hfresh
  have hmap : (store.offer event).1.held.map Offer.ticket =
      store.held.map Offer.ticket ++ [store.issued] := by
    rw [hheld, List.map_append]
    rfl
  refine ⟨?_, fun ticket hmem => ?_, fun ticket hmem => ?_, fun hclosed => ?_⟩
  · rw [hmap]
    refine List.nodup_append.mpr
      ⟨h.distinct, List.pairwise_singleton _ _, fun ticket hmem other hother => ?_⟩
    rw [List.mem_singleton.mp hother]
    exact ne_of_mem_of_not_mem hmem hfresh.1
  · have hconfirmed : (store.offer event).1.confirmed = store.confirmed := by rw [heq]
    rw [hmap, List.mem_append, List.mem_singleton] at hmem
    rw [hconfirmed]
    obtain hmem | rfl := hmem
    · exact h.unconfirmed ticket hmem
    · exact hfresh.2
  · have hissued : (store.offer event).1.issued = store.issued + 1 := by rw [heq]
    have hconfirmed : (store.offer event).1.confirmed = store.confirmed := by rw [heq]
    rw [hmap, hconfirmed, List.append_assoc, List.mem_append, List.mem_append,
      List.mem_singleton] at hmem
    rw [hissued]
    obtain hmem | rfl | hmem := hmem
    · exact Nat.lt_succ_of_lt (h.issued ticket (List.mem_append_left _ hmem))
    · exact Nat.lt_succ_self _
    · exact Nat.lt_succ_of_lt (h.issued ticket (List.mem_append_right _ hmem))
  · have hsame : (store.offer event).1.isClosed = store.isClosed := by rw [heq]; rfl
    exact absurd (hopen.symm.trans (hsame.symm.trans hclosed)) Bool.false_ne_true

/-- **An offer is dealt with after all others.** -/
theorem outlook_offer (hopen : store.isClosed = false) (event : ε) :
    (store.offer event).1.outlook =
      store.outlook.deal store.reduce store.breaks ⟨store.issued, event⟩ := by
  have hheld := held_offer hopen event
  obtain ⟨slot, waiting, entered, heq⟩ := offer_eq hopen event
  rw [heq] at hheld ⊢
  have hqueue : slot.toList ++ waiting =
      store.slot.toList ++ store.waiting ++ [⟨store.issued, event⟩] := by
    simpa [held] using hheld
  simp only [outlook]
  rw [hqueue, List.foldl_append]
  rfl

end Store

end RoundTable
