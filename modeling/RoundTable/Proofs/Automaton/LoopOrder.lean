import RoundTable.Automaton.Handles
import RoundTable.Proofs.Automaton.Outlook

/-!
# The loop works from the front

There is one sequence of offers, in the order in which they entered the queue, and the loop goes
through it from the front: it takes, folds, shows, publishes and confirms one offer after another.
So what is published is always the fold of the first offers, and there is never more than one offer
in the queue. Who waits for an offer to be published learns the truth about it.

## Main definitions

* `Store.done`: for how many offers the loop has done so much
* `Store.InStep`: the loop goes through the offers from the front
* `Store.Grows`: what steps of whomever leave behind

## Main results

* `Store.grows_move?`, `Store.InStep.move?`: steps of the store
* `Store.InStep.take_advance?`: what the loop takes and folds is what comes next
* `Store.InStep.commitResult?`: who waits for the publication learns the truth
-/

namespace RoundTable

variable {ε σ : Type}

/-! ### Stages -/

namespace Stage

/-- How much the loop has done with the offer that comes after those it has confirmed: it takes the
offer, folds it, shows the payload, and publishes it. -/
def progress : Stage ε σ → Nat
  | idle => 0
  | folding _ => 1
  | inspecting _ _ => 2
  | publishing _ _ | ended => 3
  | confirming _ => 4

/-- The payload that the loop has computed and not published. -/
def next? : Stage ε σ → Option σ
  | inspecting _ next | publishing _ next => some next
  | idle | folding _ | confirming _ | ended => none

end Stage

/-! ### Snapshots -/

namespace Outlook

variable {reduce : σ → ε → σ} {initial : σ} {offers more : List (Offer ε)} {n : Nat}

theorem snapshot_append (h : n ≤ offers.length) :
    snapshot reduce initial (offers ++ more) n = snapshot reduce initial offers n := by
  rw [snapshot, snapshot, List.take_append_of_le_length h]

theorem snapshot_succ {offer : Offer ε} (h : offers[n]? = some offer) :
    snapshot reduce initial offers (n + 1) =
      reduce (snapshot reduce initial offers n) offer.event := by
  rw [snapshot, snapshot, List.take_add_one, h]
  simp

end Outlook

namespace Store

variable {store next before middle after : Store ε σ} {offer : Offer ε}

/-- The offers that entered the queue, and after them those in line. -/
def offered (store : Store ε σ) : List (Offer ε) := store.entered ++ store.waiting

/-- For how many offers the loop has done so much: it has confirmed the first ones, and works on the
next one. -/
def done (store : Store ε σ) (work : Nat) : Nat :=
  store.confirmed.length + if work ≤ store.stage.progress then 1 else 0

theorem done_anti (store : Store ε σ) {work more : Nat} (h : work ≤ more) :
    store.done more ≤ store.done work := by
  rw [done, done]
  split <;> split <;> omega

/-! ### What steps leave behind -/

/-- What a step of whomever leaves behind: the sequence of offers goes on, nothing but new offers
gets in line, and once the loop is over nothing happens to the payload and the sequence. -/
structure Grows (before after : Store ε σ) : Prop where
  entered : before.entered <+: after.entered
  offered : ∀ offer ∈ after.offered, offer ∈ before.offered ∨ before.issued ≤ offer.ticket
  issued : before.issued ≤ after.issued
  revision : before.payload.revision ≤ after.payload.revision
  closed : before.isClosed = true →
    after.isClosed = true ∧ after.payload = before.payload ∧ after.entered = before.entered

theorem Grows.refl (store : Store ε σ) : store.Grows store :=
  ⟨List.prefix_rfl, fun _ => .inl, Nat.le_refl _, Nat.le_refl _, fun h => ⟨h, rfl, rfl⟩⟩

theorem Grows.trans (h : before.Grows middle) (h' : middle.Grows after) : before.Grows after where
  entered := h.entered.trans h'.entered
  offered offer hmem := by
    obtain hmem | hlater := h'.offered offer hmem
    · exact h.offered offer hmem
    · exact .inr (Nat.le_trans h.issued hlater)
  issued := Nat.le_trans h.issued h'.issued
  revision := Nat.le_trans h.revision h'.revision
  closed hclosed := by
    obtain ⟨hmiddle, hpayload, hentered⟩ := h.closed hclosed
    obtain ⟨hafter, hpayload', hentered'⟩ := h'.closed hmiddle
    exact ⟨hafter, hpayload'.trans hpayload, hentered'.trans hentered⟩

/-- To get in line leaves the loop and the queue alone. -/
theorem enlist_eq (store : Store ε σ) (event : ε) :
    (store.enlist event).issued = store.issued + 1 ∧
      (store.enlist event).isClosed = store.isClosed ∧
      (store.enlist event).entered = store.entered ∧
      (∀ work, (store.enlist event).done work = store.done work) ∧
      (store.enlist event).offered =
        store.offered ++ if store.isClosed then [] else [⟨store.issued, event⟩] := by
  rw [enlist]
  split
  · exact ⟨rfl, rfl, rfl, fun _ => rfl, (List.append_nil _).symm⟩
  · exact ⟨rfl, rfl, rfl, fun _ => rfl, (List.append_assoc _ _ _).symm⟩

theorem grows_enlist (store : Store ε σ) (event : ε) : store.Grows (store.enlist event) := by
  rw [enlist]
  split
  case isTrue =>
    exact ⟨List.prefix_rfl, fun _ => .inl, Nat.le_succ _, Nat.le_refl _, fun h => ⟨h, rfl, rfl⟩⟩
  case isFalse hopen =>
    refine ⟨List.prefix_rfl, fun offer hmem => ?_, Nat.le_succ _, Nat.le_refl _,
      fun h => absurd h hopen⟩
    rw [offered, ← List.append_assoc, List.mem_append, List.mem_singleton] at hmem
    obtain hmem | rfl := hmem
    · exact .inl hmem
    · exact .inr (Nat.le_refl _)

theorem offered_withdraw_sublist (store : Store ε σ) (ticket : Nat) :
    (store.withdraw ticket).offered.Sublist store.offered :=
  List.Sublist.append_left List.filter_sublist _

/-- Nobody else leaves the line. -/
theorem mem_offered_withdraw {ticket : Nat} (hmem : offer ∈ store.offered)
    (hne : offer.ticket ≠ ticket) : offer ∈ (store.withdraw ticket).offered := by
  obtain hmem | hmem := List.mem_append.mp hmem
  · exact List.mem_append_left _ hmem
  · exact List.mem_append_right _ (List.mem_filter.mpr ⟨hmem, decide_eq_true hne⟩)

theorem grows_withdraw (store : Store ε σ) (ticket : Nat) :
    store.Grows (store.withdraw ticket) :=
  ⟨List.prefix_rfl, fun _ hmem => .inl ((store.offered_withdraw_sublist ticket).subset hmem),
    Nat.le_refl _, Nat.le_refl _, fun h => ⟨h, rfl, rfl⟩⟩

theorem offered_promote? (h : store.promote? = some next) : next.offered = store.offered := by
  obtain ⟨offer, rest, -, hwaiting, rfl⟩ := promote?_eq_some h
  simp [offered, enter, hwaiting]

/-- A step of the loop leaves the sequence of offers alone, and the line too unless the inspector
breaks down. -/
theorem queues_advance? (h : store.advance? = some next) :
    store.isClosed = false ∧ next.entered = store.entered ∧ next.issued = store.issued ∧
      (next.waiting = store.waiting ∨ next.waiting = [] ∧ next.isClosed = true) := by
  rw [advance?] at h
  split at h
  case h_1 hs =>
    obtain ⟨offer, -, rfl⟩ := Option.map_eq_some_iff.mp h
    exact ⟨by rw [isClosed, hs], rfl, rfl, .inl rfl⟩
  case h_3 hs =>
    dsimp only at h
    split at h <;> cases h
    · exact ⟨by rw [isClosed, hs], rfl, rfl, .inr ⟨rfl, rfl⟩⟩
    · exact ⟨by rw [isClosed, hs], rfl, rfl, .inl rfl⟩
  case h_6 => cases h
  all_goals
    cases h
    exact ⟨by rw [isClosed, ‹store.stage = _›], rfl, rfl, .inl rfl⟩

theorem revision_advance? (h : store.advance? = some next) :
    store.payload.revision ≤ next.payload.revision := by
  rw [advance?] at h
  split at h
  case h_1 =>
    obtain ⟨offer, -, rfl⟩ := Option.map_eq_some_iff.mp h
    exact Nat.le_refl _
  case h_3 =>
    dsimp only at h
    split at h <;> cases h <;> exact Nat.le_refl _
  case h_4 =>
    cases h
    exact Nat.le_succ _
  case h_6 => cases h
  all_goals
    cases h
    exact Nat.le_refl _

/-- What the store holds it goes on holding, until its loop is over. -/
theorem mem_offered_move? {move : StoreMove} (h : store.move? move = some next)
    (hmem : offer ∈ store.offered) : offer ∈ next.offered ∨ next.isClosed = true := by
  cases move with
  | line => exact .inl (offered_promote? h ▸ hmem)
  | loop =>
    obtain ⟨-, hentered, -, hwaiting | ⟨-, hclosed⟩⟩ := queues_advance? h
    · exact .inl (by rwa [offered, hentered, hwaiting])
    · exact .inr hclosed

/-- The store takes in no offers by itself. -/
theorem offered_move?_subset {move : StoreMove} (h : store.move? move = some next) :
    next.offered ⊆ store.offered := by
  cases move with
  | line => exact offered_promote? h ▸ List.Subset.refl _
  | loop =>
    obtain ⟨-, hentered, -, hwaiting⟩ := queues_advance? h
    rw [offered, hentered]
    refine (List.Sublist.append_left ?_ _).subset
    obtain hwaiting | ⟨hwaiting, -⟩ := hwaiting
    · exact hwaiting ▸ List.Sublist.refl _
    · exact hwaiting ▸ List.nil_sublist _

theorem grows_move? (hlost : store.isClosed = true → store.waiting = []) {move : StoreMove}
    (h : store.move? move = some next) : store.Grows next := by
  have hoffered := offered_move?_subset h
  cases move with
  | line =>
    obtain ⟨offer, rest, -, hwaiting, rfl⟩ := promote?_eq_some h
    refine ⟨List.prefix_append _ _, fun other hmem => .inl (hoffered hmem), Nat.le_refl _,
      Nat.le_refl _, fun hclosed => ?_⟩
    rw [hlost hclosed] at hwaiting
    cases hwaiting
  | loop =>
    obtain ⟨hopen, hentered, hissued, -⟩ := queues_advance? h
    refine ⟨hentered ▸ List.prefix_rfl, fun offer hmem => .inl (hoffered hmem),
      Nat.le_of_eq hissued.symm, revision_advance? h, fun hclosed => ?_⟩
    rw [hopen] at hclosed
    cases hclosed

/-! ### The loop goes through the offers from the front -/

/-- The loop has confirmed the first offers, is as far with the next one as its stage says, and
has not touched the others. -/
structure InStep (reduce : σ → ε → σ) (breaks : σ → Bool) (initial : σ) (store : Store ε σ) :
    Prop where
  reducer : store.reduce = reduce
  inspector : store.breaks = breaks
  confirmed : store.confirmed = (store.entered.take store.confirmed.length).map Offer.ticket
  revision : store.payload.revision = store.done 4
  payload : store.payload.value = Outlook.snapshot reduce initial store.entered (store.done 4)
  worked : ∀ offer, store.stage.offer? = some offer →
    store.entered[store.confirmed.length]? = some offer
  next : ∀ next, store.stage.next? = some next →
    next = Outlook.snapshot reduce initial store.entered (store.confirmed.length + 1)
  queue : store.isClosed = false → store.entered.drop (store.done 1) = store.slot.toList
  behind : store.done 1 ≤ store.entered.length
  ahead : store.entered.length ≤ store.done 1 + 1
  broken : store.isClosed = store.shown.any breaks
  lost : store.isClosed = true → store.waiting = []
  tickets : (store.offered.map Offer.ticket).Pairwise (· < ·)
  issued : ∀ offer ∈ store.offered, offer.ticket < store.issued

variable {reduce : σ → ε → σ} {breaks : σ → Bool} {initial : σ}

theorem inStep_opened (reduce : σ → ε → σ) (breaks : σ → Bool) (initial : σ) :
    (opened reduce breaks initial).InStep reduce breaks initial := by
  constructor <;> simp [opened, done, Stage.progress, Stage.offer?, Stage.next?, Published.first,
    Outlook.snapshot, isClosed, offered]

namespace InStep

/-- Whoever joins or leaves the line leaves the loop alone. -/
theorem line (h : store.InStep reduce breaks initial) {waiting : List (Offer ε)} {issued : Nat}
    (hlost : store.isClosed = true → waiting = [])
    (htickets : ((store.entered ++ waiting).map Offer.ticket).Pairwise (· < ·))
    (hissued : ∀ offer ∈ store.entered ++ waiting, offer.ticket < issued) :
    InStep reduce breaks initial { store with waiting, issued } where
  reducer := h.reducer
  inspector := h.inspector
  confirmed := h.confirmed
  revision := h.revision
  payload := h.payload
  worked := h.worked
  next := h.next
  queue := h.queue
  behind := h.behind
  ahead := h.ahead
  broken := h.broken
  lost := hlost
  tickets := htickets
  issued := hissued

theorem enlist (h : store.InStep reduce breaks initial) (event : ε) :
    (store.enlist event).InStep reduce breaks initial := by
  rw [Store.enlist]
  split
  case isTrue =>
    exact h.line h.lost h.tickets fun offer hmem => Nat.lt_succ_of_lt (h.issued offer hmem)
  case isFalse hopen =>
    refine h.line (fun hclosed => absurd hclosed hopen) ?_ fun offer hmem => ?_
    · rw [← List.append_assoc, List.map_append, List.pairwise_append]
      refine ⟨h.tickets, List.pairwise_singleton _ _, fun ticket hmem new hnew => ?_⟩
      obtain ⟨offer, hoffer, rfl⟩ := List.mem_map.mp hmem
      rw [List.map_singleton, List.mem_singleton] at hnew
      exact hnew ▸ h.issued offer hoffer
    · rw [← List.append_assoc, List.mem_append, List.mem_singleton] at hmem
      obtain hmem | rfl := hmem
      · exact Nat.lt_succ_of_lt (h.issued offer hmem)
      · exact Nat.lt_succ_self _

theorem withdraw (h : store.InStep reduce breaks initial) (ticket : Nat) :
    (store.withdraw ticket).InStep reduce breaks initial := by
  have hsub := store.offered_withdraw_sublist ticket
  refine h.line (fun hclosed => ?_) (h.tickets.sublist (hsub.map _)) fun offer hmem =>
    h.issued offer (hsub.subset hmem)
  rw [h.lost hclosed, List.filter_nil]

/-- Whoever moves up enters the queue, which was empty. -/
theorem promote? (h : store.InStep reduce breaks initial) (hnext : store.promote? = some next) :
    next.InStep reduce breaks initial := by
  have hoffered := offered_promote? hnext
  obtain ⟨offer, rest, hslot, hwaiting, rfl⟩ := promote?_eq_some hnext
  have hopen : store.isClosed = false := by
    cases hclosed : store.isClosed with
    | false => rfl
    | true =>
      rw [h.lost hclosed] at hwaiting
      cases hwaiting
  have hlength : store.entered.length = store.done 1 := by
    have hqueue := h.queue hopen
    rw [hslot, Option.toList_none, List.drop_eq_nil_iff] at hqueue
    exact Nat.le_antisymm hqueue h.behind
  have hdone (work : Nat) :
      (enter { store with waiting := rest } offer).done work = store.done work := rfl
  have hless : store.confirmed.length ≤ store.entered.length :=
    Nat.le_trans (Nat.le_add_right _ _) h.behind
  constructor
  case reducer => exact h.reducer
  case inspector => exact h.inspector
  case revision => exact h.revision
  case broken => exact h.broken
  case confirmed =>
    change store.confirmed =
      ((store.entered ++ [offer]).take store.confirmed.length).map Offer.ticket
    rw [List.take_append_of_le_length hless]
    exact h.confirmed
  case payload =>
    change store.payload.value = Outlook.snapshot reduce initial (store.entered ++ [offer]) _
    rw [hdone, Outlook.snapshot_append (Nat.le_trans (store.done_anti (by omega)) h.behind)]
    exact h.payload
  case worked =>
    intro worked hworked
    have hsome := h.worked worked hworked
    change (store.entered ++ [offer])[store.confirmed.length]? = some worked
    rwa [List.getElem?_append_left (List.getElem?_eq_some_iff.mp hsome).1]
  case next =>
    intro payload hpayload
    have hprogress : 1 ≤ store.stage.progress := by
      cases hs : store.stage <;> simp [hs, enter, Stage.next?, Stage.progress] at hpayload ⊢
    have hbehind := h.behind
    rw [done, if_pos hprogress] at hbehind
    rw [h.next payload hpayload]
    exact (Outlook.snapshot_append hbehind).symm
  case queue =>
    intro _
    change (store.entered ++ [offer]).drop (store.done 1) = [offer]
    rw [← hlength, List.drop_left]
  case behind =>
    change store.done 1 ≤ (store.entered ++ [offer]).length
    rw [List.length_append]
    omega
  case ahead =>
    change (store.entered ++ [offer]).length ≤ store.done 1 + 1
    rw [List.length_append, List.length_singleton]
    omega
  case lost =>
    intro hclosed
    exact Bool.noConfusion (hopen.symm.trans hclosed)
  case tickets => exact hoffered ▸ h.tickets
  case issued => exact hoffered ▸ h.issued

/-- The offer in the queue is the next one if the loop is about to take it. -/
theorem slot (h : store.InStep reduce breaks initial) (hs : store.stage = .idle)
    (hslot : store.slot = some offer) : store.entered[store.confirmed.length]? = some offer ∧
      store.entered.length = store.confirmed.length + 1 := by
  have hdone : store.done 1 = store.confirmed.length := by rw [done, hs]; rfl
  have hdrop := h.queue (by rw [isClosed, hs])
  rw [hdone, hslot, Option.toList_some] at hdrop
  have hlength := congrArg List.length hdrop
  rw [List.length_drop, List.length_singleton] at hlength
  exact ⟨by rw [← List.head?_drop, hdrop, List.head?_cons], by omega⟩

/-- What the loop has computed is the payload after the next offer. -/
theorem fold (h : store.InStep reduce breaks initial) (hs : store.stage = .folding offer) :
    store.reduce store.payload.value offer.event =
      Outlook.snapshot reduce initial store.entered (store.confirmed.length + 1) := by
  have hdone : store.done 4 = store.confirmed.length := by rw [done, hs]; rfl
  rw [Outlook.snapshot_succ (h.worked offer (by rw [hs]; rfl)), h.payload, h.reducer, hdone]

/-- **The loop works from the front.** It takes the offer in the queue, and goes on with the offer
that it has taken. -/
theorem advance? (h : store.InStep reduce breaks initial) (hnext : store.advance? = some next) :
    next.InStep reduce breaks initial := by
  obtain ⟨reduce', breaks', payload, stage, _, waiting, entered, confirmed, issued, shown⟩ := store
  obtain rfl : reduce' = reduce := h.reducer
  obtain rfl : breaks' = breaks := h.inspector
  cases stage with
  | idle =>
    obtain ⟨offer, rfl, rfl⟩ := Option.map_eq_some_iff.mp hnext
    obtain ⟨hget, hlength⟩ := h.slot rfl rfl
    refine { h with worked := ?_, next := nofun, queue := ?_, behind := ?_, ahead := ?_ }
    · rintro _ ⟨⟩
      exact hget
    · intro _
      exact List.drop_eq_nil_of_le (Nat.le_of_eq hlength)
    · exact Nat.le_of_eq hlength.symm
    · exact Nat.le_succ_of_le (Nat.le_of_eq hlength)
  | folding offer =>
    cases hnext
    refine { h with next := ?_ }
    rintro _ ⟨⟩
    exact h.fold rfl
  | inspecting offer result =>
    dsimp only [Store.advance?] at hnext
    split at hnext
    case isTrue hbreaks =>
      cases hnext
      have hsub : List.Sublist (entered ++ []) (entered ++ waiting) :=
        List.Sublist.append_left (List.nil_sublist _) entered
      refine { h with worked := nofun, next := nofun, queue := nofun, broken := ?_,
                      lost := fun _ => rfl, tickets := h.tickets.sublist (hsub.map _),
                      issued := fun offer hmem => h.issued offer (hsub.subset hmem) }
      change true = (shown ++ [result]).any breaks'
      rw [List.any_append, List.any_cons, hbreaks, Bool.true_or, Bool.or_true]
    case isFalse hbreaks =>
      cases hnext
      refine { h with broken := ?_ }
      change false = (shown ++ [result]).any breaks'
      rw [List.any_append, ← h.broken, List.any_cons, List.any_nil, Bool.or_false]
      exact ((Bool.not_eq_true _).mp hbreaks).symm
  | publishing offer result =>
    cases hnext
    refine { h with revision := ?_, payload := ?_, next := nofun }
    · exact congrArg (· + 1) h.revision
    · exact h.next _ rfl
  | confirming offer =>
    cases hnext
    have hget : entered[confirmed.length]? = some offer := h.worked offer rfl
    have hlength : (confirmed ++ [offer.ticket]).length = confirmed.length + 1 :=
      List.length_append
    refine { h with confirmed := ?_, revision := ?_, payload := ?_, worked := nofun,
                    next := nofun, queue := ?_, behind := ?_, ahead := ?_ }
    · rw [hlength, List.take_add_one, hget, List.map_append, ← h.confirmed]
      rfl
    · exact h.revision.trans hlength.symm
    · exact h.payload.trans (congrArg _ hlength.symm)
    · intro hopen
      exact (congrArg entered.drop hlength).trans (h.queue hopen)
    · exact Nat.le_trans (Nat.le_of_eq hlength) h.behind
    · exact Nat.le_trans h.ahead (Nat.le_of_eq (congrArg (· + 1) hlength.symm))
  | ended => cases hnext

theorem move? (h : store.InStep reduce breaks initial) {move : StoreMove}
    (hnext : store.move? move = some next) : next.InStep reduce breaks initial := by
  cases move with
  | loop => exact h.advance? hnext
  | line => exact h.promote? hnext

/-- What the loop takes and folds is what comes next. -/
theorem take_advance? (h : store.InStep reduce breaks initial)
    (hnext : store.advance? = some next) :
    next.entered.take (next.done 1) =
        store.entered.take (store.done 1) ++ store.taking?.toList ∧
      next.entered.take (next.done 2) =
        store.entered.take (store.done 2) ++ store.folding?.toList := by
  obtain ⟨_, _, payload, stage, _, waiting, entered, confirmed, issued, shown⟩ := store
  have hsucc {offer : Offer ε} (hget : entered[confirmed.length]? = some offer) :
      entered.take (confirmed.length + 1) = entered.take confirmed.length ++ [offer] := by
    rw [List.take_add_one, hget]
    rfl
  have hsame (n : Nat) : entered.take n = entered.take n ++ [] := (List.append_nil _).symm
  cases stage with
  | idle =>
    obtain ⟨offer, rfl, rfl⟩ := Option.map_eq_some_iff.mp hnext
    exact ⟨hsucc (h.slot rfl rfl).1, hsame _⟩
  | folding offer =>
    cases hnext
    exact ⟨hsame _, hsucc (h.worked offer rfl)⟩
  | inspecting offer result =>
    dsimp only [Store.advance?] at hnext
    split at hnext <;> cases hnext <;> exact ⟨hsame _, hsame _⟩
  | publishing offer result =>
    cases hnext
    exact ⟨hsame _, hsame _⟩
  | confirming offer =>
    cases hnext
    have hlength : (confirmed ++ [offer.ticket]).length = confirmed.length + 1 :=
      List.length_append
    exact ⟨(congrArg entered.take hlength).trans (hsame _),
      (congrArg entered.take hlength).trans (hsame _)⟩
  | ended => cases hnext

/-- Whoever moves up comes after all that the loop has worked on. -/
theorem take_promote? (h : store.InStep reduce breaks initial)
    (hnext : store.promote? = some next) {work : Nat} (hwork : 1 ≤ work) :
    next.entered.take (next.done work) = store.entered.take (store.done work) := by
  obtain ⟨offer, rest, -, -, rfl⟩ := promote?_eq_some hnext
  exact List.take_append_of_le_length (Nat.le_trans (store.done_anti hwork) h.behind)

end InStep

/-! ### Offers that do not wait -/

/-- Who does not wait gets in line and enters the queue at once. -/
theorem tryOffer_eq_ok {event : ε} (h : store.tryOffer event = .ok next) :
    (store.enlist event).promote? = some next ∧ ⟨store.issued, event⟩ ∈ next.entered := by
  rw [tryOffer] at h
  split at h
  case isTrue => cases h
  case isFalse hopen =>
    split at h
    case isFalse => cases h
    case isTrue hroom =>
      obtain ⟨hslot, hwaiting⟩ : store.slot = none ∧ store.waiting = [] := by
        simpa [hasRoom] using hroom
      have hpromote : (store.enlist event).promote? = some (enter
          { store with waiting := [], issued := store.issued + 1 } ⟨store.issued, event⟩) := by
        simp [enlist, hopen, promote?, hslot, hwaiting]
      cases h
      rw [offer_eq_enlist, if_neg hopen, hpromote]
      exact ⟨rfl, List.mem_append_right _ (List.mem_singleton_self _)⟩

theorem tryOffer_eq_closed {event : ε} (h : store.tryOffer event = .error .closed) :
    store.isClosed = true := by
  rw [tryOffer] at h
  split at h
  case isTrue hclosed => exact hclosed
  case isFalse => split at h <;> cases h

/-! ### What became of an offer -/

/-- The offers after which a payload was published. -/
def published (store : Store ε σ) : List (Offer ε) :=
  store.entered.take store.payload.revision

theorem sendResult?_cases {ticket : Nat} {result : Except StoreError Unit}
    (h : store.sendResult? ticket = some result) :
    (result = .ok () ∧ ∃ offer ∈ store.entered, offer.ticket = ticket) ∨
      (result = .error .closed ∧ ∀ offer ∈ store.offered, offer.ticket ≠ ticket) := by
  rw [sendResult?] at h
  split at h
  case isTrue hentered =>
    cases h
    exact .inl ⟨rfl, by simpa using hentered⟩
  case isFalse hentered =>
    split at h
    case isTrue => cases h
    case isFalse hwaiting =>
      cases h
      refine .inr ⟨rfl, fun offer hmem => ?_⟩
      obtain hmem | hmem := List.mem_append.mp hmem
      · simp only [List.any_eq_true, not_exists, not_and, beq_iff_eq] at hentered
        exact hentered offer hmem
      · simp only [List.any_eq_true, not_exists, not_and, beq_iff_eq] at hwaiting
        exact hwaiting offer hmem

theorem commitResult?_cases {ticket : Nat} {result : Except StoreError Unit}
    (h : store.commitResult? ticket = some result) :
    (result = .ok () ∧ ticket ∈ store.confirmed) ∨
      (result = .error .closed ∧ ticket ∉ store.confirmed ∧
        ticket ∉ store.held.map Offer.ticket) := by
  have hheld := (commitResult?_eq_some h).2
  rw [commitResult?] at h
  split at h
  case isTrue hmem =>
    cases h
    exact .inl ⟨rfl, hmem⟩
  case isFalse hnot =>
    split at h <;> cases h
    exact .inr ⟨rfl, hnot, hheld hnot⟩

namespace InStep

/-- A confirmed offer has been published. -/
theorem exists_published (h : store.InStep reduce breaks initial) {ticket : Nat}
    (hmem : ticket ∈ store.confirmed) : ∃ offer ∈ store.published, offer.ticket = ticket := by
  rw [h.confirmed] at hmem
  obtain ⟨offer, hoffer, rfl⟩ := List.mem_map.mp hmem
  refine ⟨offer, ?_, rfl⟩
  rw [published, h.revision]
  exact (List.take_sublist_take_left (Nat.le_add_right _ _)).subset hoffer

/-- Once the loop is over, what has been published has been confirmed. -/
theorem mem_confirmed (h : store.InStep reduce breaks initial) (hclosed : store.isClosed = true)
    (hmem : offer ∈ store.published) : offer.ticket ∈ store.confirmed := by
  have hdone : store.done 4 = store.confirmed.length := by
    rw [done]
    cases hs : store.stage <;> simp [isClosed, hs, Stage.progress] at hclosed ⊢
  rw [published, h.revision, hdone] at hmem
  rw [h.confirmed]
  exact List.mem_map_of_mem hmem

/-- As long as the loop is not over, an offer that it has not confirmed is held. -/
theorem mem_held (h : store.InStep reduce breaks initial) (hopen : store.isClosed = false)
    (hmem : offer ∈ store.offered) (hnot : offer.ticket ∉ store.confirmed) :
    offer ∈ store.held := by
  rw [held, List.mem_append, List.mem_append]
  obtain hmem | hmem := List.mem_append.mp hmem
  · rw [← List.take_append_drop (store.done 1) store.entered, h.queue hopen,
      List.mem_append] at hmem
    refine .inl (hmem.imp_left fun htaken => ?_)
    rw [done] at htaken
    split at htaken
    case isTrue hprogress =>
      obtain ⟨working, hworking⟩ : ∃ working, store.stage.offer? = some working := by
        cases hs : store.stage <;>
          simp [hs, isClosed, Stage.progress, Stage.offer?] at hopen hprogress ⊢
      rw [List.take_add_one, h.worked working hworking, List.mem_append] at htaken
      obtain hconfirmed | hlast := htaken
      · rw [h.confirmed] at hnot
        exact absurd (List.mem_map_of_mem hconfirmed) hnot
      · rwa [hworking]
    case isFalse =>
      rw [h.confirmed] at hnot
      exact absurd (List.mem_map_of_mem htaken) hnot
  · exact .inr hmem

/-- **A committer learns the truth.** If the offer is neither confirmed nor on its way, then the
loop is over and the offer has not been published. -/
theorem commitResult? (h : store.InStep reduce breaks initial) {ticket : Nat}
    (hticket : store.isClosed = true ∨ ∃ offer ∈ store.offered, offer.ticket = ticket)
    {result : Except StoreError Unit} (hresult : store.commitResult? ticket = some result) :
    (result = .ok () ∧ ∃ offer ∈ store.published, offer.ticket = ticket) ∨
      (result = .error .closed ∧ store.isClosed = true ∧
        ∀ offer ∈ store.published, offer.ticket ≠ ticket) := by
  obtain ⟨rfl, hmem⟩ | ⟨rfl, hnot, hheld⟩ := commitResult?_cases hresult
  · exact .inl ⟨rfl, h.exists_published hmem⟩
  · have hclosed : store.isClosed = true := by
      obtain hclosed | ⟨offer, hmem, rfl⟩ := hticket
      · exact hclosed
      · cases hopen : store.isClosed with
        | true => rfl
        | false => exact absurd (List.mem_map_of_mem (h.mem_held hopen hmem hnot)) hheld
    refine .inr ⟨rfl, hclosed, ?_⟩
    rintro offer hmem rfl
    exact hnot (h.mem_confirmed hclosed hmem)

end InStep

end Store

end RoundTable
