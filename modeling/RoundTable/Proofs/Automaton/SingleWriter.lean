import RoundTable.Proofs.Automaton.LoopOrder

/-!
# A store has a single writer

However many handles a store has, and in whatever order their calls, their looks and the steps of
the store fall: what is published is the fold of the first offers that entered the queue, and how
many these are never goes down. No offer is folded twice, and what a call returns says where its
offer stands.

## Main definitions

* `StoreCall.Says`: what a result says about the offer of a call
* `Store.Knows`: what the calls so far and a store have to do with each other
* `StoreInUse.Sound`, `StoreInUse.Extends`: what is so at any time, and what stays so

## Main results

* `StoreInUse.Sound.step?`, `StoreInUse.Sound.run?`: steps and runs keep both
* `StoreInUse.single_writer_fold`: what holds in every course of events
-/

namespace RoundTable

variable {ε σ : Type}

/-! ### What calls say -/

namespace StoreCall

variable {call : StoreCall ε} {store next : Store ε σ}

/-- An offer is the one that a call has made. -/
def Makes (call : StoreCall ε) (offer : Offer ε) : Prop :=
  call.ticket = some offer.ticket ∧ call.event = offer.event

/-- What a result says about the offer of a call. If all is well, then the offer has been published,
or has entered the queue, depending on what the caller has waited for. An error says that the offer
has not been published, and then the loop is over, or that it has neither entered the queue nor is
in line for it. -/
def Says (call : StoreCall ε) (store : Store ε σ) : Except StoreError Unit → Prop
  | .ok () =>
    ∃ offer ∈ if call.delivery = .published then store.published else store.entered,
      call.Makes offer
  | .error error =>
    (error = .closed ∨ call.delivery = .published → store.isClosed = true) ∧
      ∀ offer ∈ if call.delivery = .published then store.published else store.offered,
        call.ticket ≠ some offer.ticket

/-- Whether what is known of a call is so. As long as the call is under way, the store has its
offer, unless the loop is over. -/
def Sound (call : StoreCall ε) (store : Store ε σ) : Prop :=
  match call.status with
  | .underWay => ∃ ticket, call.ticket = some ticket ∧
      (store.isClosed = true ∨ ∃ offer ∈ store.offered, offer.ticket = ticket)
  | .returned result => call.Says store result
  | .givenUp => True

end StoreCall

theorem Store.Grows.published {before after : Store ε σ} (h : before.Grows after) :
    before.published ⊆ after.published := by
  refine List.IsPrefix.subset (List.prefix_take_iff.mpr ⟨?_, ?_⟩)
  · exact (List.take_prefix _ _).trans h.entered
  · exact Nat.le_trans (List.length_take_le _ _) h.revision

/-- What a result says stays so. -/
theorem StoreCall.Says.mono {call : StoreCall ε} {before after : Store ε σ}
    {result : Except StoreError Unit} (h : call.Says before result) (hgrows : before.Grows after)
    (hissued : ∀ ticket, call.ticket = some ticket → ticket < before.issued) :
    call.Says after result := by
  cases result with
  | ok =>
    obtain ⟨offer, hmem, hmakes⟩ := h
    refine ⟨offer, ?_, hmakes⟩
    split at hmem
    case isTrue hdelivery => exact if_pos hdelivery ▸ hgrows.published hmem
    case isFalse hdelivery => exact if_neg hdelivery ▸ hgrows.entered.subset hmem
  | error error =>
    obtain ⟨hclosed, hnot⟩ := h
    refine ⟨fun herror => (hgrows.closed (hclosed herror)).1, fun offer hmem heq => ?_⟩
    split at hmem
    case isTrue hdelivery =>
      rw [if_pos hdelivery] at hnot
      obtain ⟨-, hpayload, hentered⟩ := hgrows.closed (hclosed (.inr hdelivery))
      rw [Store.published, hpayload, hentered] at hmem
      exact hnot offer hmem heq
    case isFalse hdelivery =>
      rw [if_neg hdelivery] at hnot
      obtain hold | hnew := hgrows.offered offer hmem
      · exact hnot offer hold heq
      · exact Nat.not_lt.mpr hnew (hissued _ heq)

/-- What is known of a call stays so, if the store goes on and still has its offer. -/
theorem StoreCall.Sound.mono {call : StoreCall ε} {before after : Store ε σ}
    (h : call.Sound before) (hgrows : before.Grows after)
    (hissued : ∀ ticket, call.ticket = some ticket → ticket < before.issued)
    (hkept : call.status.isUnderWay = true → ∀ offer ∈ before.offered,
      call.ticket = some offer.ticket → offer ∈ after.offered ∨ after.isClosed = true) :
    call.Sound after := by
  rw [StoreCall.Sound] at h ⊢
  cases hs : call.status with
  | givenUp => trivial
  | returned result =>
    rw [hs] at h
    exact h.mono hgrows hissued
  | underWay =>
    rw [hs] at h hkept
    obtain ⟨ticket, hticket, hclosed | ⟨offer, hoffer, rfl⟩⟩ := h
    · exact ⟨ticket, hticket, .inl (hgrows.closed hclosed).1⟩
    · obtain hstill | hclosed := hkept rfl offer hoffer hticket
      · exact ⟨_, hticket, .inr ⟨offer, hstill, rfl⟩⟩
      · exact ⟨_, hticket, .inl hclosed⟩

/-! ### Calls and offers -/

/-- Every offer is the one of some call, no two calls have the same ticket, and what is known of a
call is so. -/
structure Store.Knows (store : Store ε σ) (calls : List (StoreCall ε)) : Prop where
  owners : ∀ offer ∈ store.offered, ∃ call ∈ calls, call.Makes offer
  tickets : (calls.filterMap StoreCall.ticket).Pairwise (· < ·)
  issued : ∀ ticket ∈ calls.filterMap StoreCall.ticket, ticket < store.issued
  sound : ∀ call ∈ calls, call.Sound store

namespace Store.Knows

variable {store next : Store ε σ} {calls : List (StoreCall ε)} {call : StoreCall ε}

/-- Calls have tickets of their own. -/
theorem eq_of_ticket (h : store.Knows calls) {i j : Nat} {first second : StoreCall ε}
    (hi : calls[i]? = some first) (hj : calls[j]? = some second) {ticket : Nat}
    (hfirst : first.ticket = some ticket) (hsecond : second.ticket = some ticket) : i = j := by
  have hpairs := List.pairwise_iff_getElem.mp (List.pairwise_filterMap.mp h.tickets)
  obtain ⟨hlti, rfl⟩ := List.getElem?_eq_some_iff.mp hi
  obtain ⟨hltj, rfl⟩ := List.getElem?_eq_some_iff.mp hj
  rcases Nat.lt_trichotomy i j with hlt | heq | hlt
  · exact absurd (hpairs i j hlti hltj hlt _ hfirst _ hsecond) (Nat.lt_irrefl _)
  · exact heq
  · exact absurd (hpairs j i hltj hlti hlt _ hsecond _ hfirst) (Nat.lt_irrefl _)

/-- The offer of the ticket of a call is the one that the call has made. -/
theorem makes (h : store.Knows calls) {number : Nat} (hget : calls[number]? = some call)
    {offer : Offer ε} (hmem : offer ∈ store.offered) (hticket : call.ticket = some offer.ticket) :
    call.Makes offer := by
  obtain ⟨other, hother, hmakes⟩ := h.owners offer hmem
  obtain ⟨i, hi⟩ := List.mem_iff_getElem?.mp hother
  obtain rfl := h.eq_of_ticket hi hget hmakes.1 hticket
  rw [hi] at hget
  cases hget
  exact hmakes

theorem lt_issued (h : store.Knows calls) (hmem : call ∈ calls) (ticket : Nat)
    (hticket : call.ticket = some ticket) : ticket < store.issued :=
  h.issued ticket (List.mem_filterMap.mpr ⟨call, hmem, hticket⟩)

/-- The store goes on, and still has the offers of the calls under way. -/
theorem move (h : store.Knows calls) (hgrows : store.Grows next)
    (hoffered : next.offered ⊆ store.offered)
    (hkept : ∀ call ∈ calls, call.status.isUnderWay = true → ∀ offer ∈ store.offered,
      call.ticket = some offer.ticket → offer ∈ next.offered ∨ next.isClosed = true) :
    next.Knows calls where
  owners offer hmem := h.owners offer (hoffered hmem)
  tickets := h.tickets
  issued ticket hmem := Nat.lt_of_lt_of_le (h.issued ticket hmem) hgrows.issued
  sound call hmem := (h.sound call hmem).mono hgrows (h.lt_issued hmem) (hkept call hmem)

/-- One more call has been made, and the store goes on with its offer, if there is one. -/
theorem note (h : store.Knows calls) (hgrows : store.Grows next)
    (hoffered : ∀ offer ∈ next.offered, offer ∈ store.offered ∨ call.Makes offer)
    (hkept : store.offered ⊆ next.offered) (hsound : call.Sound next)
    (hticket : ∀ ticket, call.ticket = some ticket →
      store.issued ≤ ticket ∧ ticket < next.issued) :
    next.Knows (calls ++ [call]) := by
  have htickets : (calls ++ [call]).filterMap StoreCall.ticket =
      calls.filterMap StoreCall.ticket ++ call.ticket.toList := by
    rw [List.filterMap_append]
    cases hticket : call.ticket <;> simp [hticket]
  refine ⟨fun offer hmem => ?_, ?_, fun ticket hmem => ?_, fun other hmem => ?_⟩
  · obtain hold | hmakes := hoffered offer hmem
    · obtain ⟨other, hother, hmakes⟩ := h.owners offer hold
      exact ⟨other, List.mem_append_left _ hother, hmakes⟩
    · exact ⟨call, List.mem_append_right _ (List.mem_singleton_self call), hmakes⟩
  · rw [htickets, List.pairwise_append]
    refine ⟨h.tickets, ?_, fun other hother ticket hmem => ?_⟩
    · cases call.ticket <;> simp
    · exact Nat.lt_of_lt_of_le (h.issued other hother)
        (hticket ticket (Option.mem_toList.mp hmem)).1
  · rw [htickets] at hmem
    obtain hmem | hmem := List.mem_append.mp hmem
    · exact Nat.lt_of_lt_of_le (h.issued ticket hmem) hgrows.issued
    · exact (hticket ticket (Option.mem_toList.mp hmem)).2
  · obtain hmem | hmem := List.mem_append.mp hmem
    · exact (h.sound other hmem).mono hgrows (h.lt_issued hmem) fun _ offer hoffer _ =>
        .inl (hkept hoffer)
    · exact List.mem_singleton.mp hmem ▸ hsound

/-- Somebody gets in line. -/
theorem enlist (h : store.Knows calls) (delivery : Delivery) (event : ε) :
    (store.enlist event).Knows
      (calls ++ [⟨delivery, event, some store.issued, .underWay⟩]) := by
  obtain ⟨hissued, hclosed, -, -, hoffered⟩ := store.enlist_eq event
  refine h.note (Store.grows_enlist _ _) (fun offer hmem => ?_) (fun offer hmem => ?_)
    ⟨store.issued, rfl, ?_⟩ ?_
  · rw [hoffered, List.mem_append] at hmem
    refine hmem.imp_right fun hnew => ?_
    split at hnew
    · cases hnew
    · obtain rfl := List.mem_singleton.mp hnew
      exact ⟨rfl, rfl⟩
  · rw [hoffered]
    exact List.mem_append_left _ hmem
  · rw [hclosed, hoffered]
    cases store.isClosed with
    | true => exact .inl rfl
    | false => exact .inr ⟨_, List.mem_append_right _ (List.mem_singleton_self _), rfl⟩
  · rintro _ ⟨⟩
    exact ⟨Nat.le_refl _, hissued ▸ Nat.lt_succ_self _⟩

/-- The call of a number gets another status. -/
theorem setStatus (h : store.Knows calls) {number : Nat} (hget : calls[number]? = some call)
    (status : StoreCall.Status) (hsound : StoreCall.Sound { call with status } store) :
    store.Knows (calls.modify number fun call => { call with status }) := by
  have hmodify (i : Nat) := List.getElem?_modify (fun call : StoreCall ε => { call with status })
    number calls i
  have htickets : (calls.modify number fun call => { call with status }).filterMap
      StoreCall.ticket = calls.filterMap StoreCall.ticket := by
    have hmap : (calls.modify number fun call => { call with status }).map StoreCall.ticket =
        calls.map StoreCall.ticket := by
      refine List.ext_getElem? fun i => ?_
      rw [List.getElem?_map, List.getElem?_map, hmodify, Option.map_eq_map,
        Option.map_map]
      congr 1
      funext other
      simp only [Function.comp_apply]
      split <;> rfl
    exact (List.filterMap_map.symm.trans (congrArg (List.filterMap id) hmap)).trans
      List.filterMap_map
  refine ⟨fun offer hmem => ?_, htickets ▸ h.tickets, htickets ▸ h.issued, fun other hmem => ?_⟩
  · obtain ⟨owner, howner, hmakes⟩ := h.owners offer hmem
    obtain ⟨i, hi⟩ := List.mem_iff_getElem?.mp howner
    have hi' := hmodify i
    rw [hi] at hi'
    refine ⟨_, List.mem_iff_getElem?.mpr ⟨i, hi'⟩, ?_⟩
    split
    · exact hmakes
    · exact hmakes
  · obtain ⟨i, hi⟩ := List.mem_iff_getElem?.mp hmem
    rw [hmodify] at hi
    obtain ⟨old, hold, heq⟩ := Option.map_eq_some_iff.mp hi
    split at heq
    case isTrue hnumber =>
      rw [← hnumber, hget] at hold
      cases hold
      exact heq ▸ hsound
    case isFalse => exact heq ▸ h.sound old (List.mem_of_getElem? hold)

/-- Somebody who does not wait enters the queue. -/
theorem tryOffer (h : store.Knows calls) {event : ε}
    (hlost : (store.enlist event).isClosed = true → (store.enlist event).waiting = [])
    (hoffer : store.tryOffer event = .ok next) :
    store.Grows next ∧
      next.Knows (calls ++ [⟨.atOnce, event, some store.issued, .returned (.ok ())⟩]) := by
  obtain ⟨hpromote, hentered⟩ := Store.tryOffer_eq_ok hoffer
  have hline : (store.enlist event).move? .line = some next := hpromote
  have hgrows := Store.grows_move? hlost hline
  have hsame := Store.offered_promote? hpromote
  have hknows := (h.enlist .atOnce event).move hgrows (hsame ▸ List.Subset.refl _)
    fun _ _ _ offer hmem _ => .inl (hsame ▸ hmem)
  have hreturned := hknows.setStatus (List.getElem?_concat_length (l := calls))
    (.returned (.ok ())) ⟨_, hentered, rfl, rfl⟩
  rw [List.modify_eq_take_drop] at hreturned
  refine ⟨(Store.grows_enlist _ event).trans hgrows, ?_⟩
  simpa using hreturned

/-- A result says what is so when the call returns. -/
theorem says_callResult? (h : store.Knows calls) {reduce : σ → ε → σ} {breaks : σ → Bool}
    {initial : σ} (hstep : store.InStep reduce breaks initial) {number ticket : Nat}
    (hget : calls[number]? = some call) (hticket : call.ticket = some ticket)
    (hunder : call.status.isUnderWay = true) {result : Except StoreError Unit}
    (hresult : store.callResult? ticket call.delivery = some result) : call.Says store result := by
  have hoffer : store.isClosed = true ∨ ∃ offer ∈ store.offered, offer.ticket = ticket := by
    have hsound := h.sound call (List.mem_of_getElem? hget)
    cases hs : call.status with
    | returned | givenUp =>
      rw [hs] at hunder
      cases hunder
    | underWay =>
      rw [StoreCall.Sound, hs] at hsound
      obtain ⟨_, hsome, hoffer⟩ := hsound
      rw [hticket] at hsome
      cases hsome
      exact hoffer
  cases hdelivery : call.delivery with
  | atOnce =>
    rw [hdelivery] at hresult
    cases hresult
  | queued =>
    rw [hdelivery] at hresult
    obtain ⟨rfl, offer, hmem, rfl⟩ | ⟨rfl, hnot⟩ := Store.sendResult?_cases hresult
    · refine ⟨offer, ?_, h.makes hget (List.mem_append_left _ hmem) hticket⟩
      rwa [if_neg (by simp [hdelivery])]
    · refine ⟨fun _ => ?_, fun offer hmem heq => ?_⟩
      · obtain hclosed | ⟨offer, hmem, heq⟩ := hoffer
        · exact hclosed
        · exact absurd heq (hnot offer hmem)
      · rw [if_neg (by simp [hdelivery])] at hmem
        rw [hticket] at heq
        exact hnot offer hmem (Option.some.inj heq).symm
  | published =>
    rw [hdelivery] at hresult
    obtain ⟨rfl, offer, hmem, rfl⟩ | ⟨rfl, hclosed, hnot⟩ := hstep.commitResult? hoffer hresult
    · refine ⟨offer, by rwa [if_pos hdelivery], h.makes hget ?_ hticket⟩
      exact List.mem_append_left _ (List.mem_of_mem_take hmem)
    · refine ⟨fun _ => hclosed, fun offer hmem heq => ?_⟩
      rw [if_pos hdelivery] at hmem
      rw [hticket] at heq
      exact hnot offer hmem (Option.some.inj heq).symm

end Store.Knows

/-! ### Stores in use -/

namespace StoreInUse

variable {reduce : σ → ε → σ} {breaks : σ → Bool} {initial : σ}
variable {use next before middle after : StoreInUse ε σ}

/-- The payloads that somebody has read, up to a number of publications: the fold of more and more
of the first offers. -/
def ReadsInOrder (reduce : σ → ε → σ) (initial : σ) (use : StoreInUse ε σ) : Prop :=
  ∃ counts : List Nat, counts.Pairwise (· ≤ ·) ∧
    (∀ count ∈ counts, count ≤ use.store.payload.revision) ∧
    use.reads = counts.map (Outlook.snapshot reduce initial use.store.entered)

/-- What is so at any time. -/
structure Sound (reduce : σ → ε → σ) (breaks : σ → Bool) (initial : σ)
    (use : StoreInUse ε σ) : Prop where
  inStep : use.store.InStep reduce breaks initial
  taken : use.taken = use.store.entered.take (use.store.done 1)
  folded : use.folded = use.store.entered.take (use.store.done 2)
  reads : use.ReadsInOrder reduce initial
  knows : use.store.Knows use.calls

/-- What stays so: what has happened has happened, who has returned has returned, and once the loop
is over nothing is folded. -/
structure Extends (before after : StoreInUse ε σ) : Prop where
  store : before.store.Grows after.store
  folded : before.folded <+: after.folded
  reads : before.reads <+: after.reads
  calls : ∀ (number : Nat) (call : StoreCall ε), before.calls[number]? = some call →
    call.status.isUnderWay = false → after.calls[number]? = some call
  frozen : before.store.isClosed = true → after.folded = before.folded

theorem Extends.refl (use : StoreInUse ε σ) : use.Extends use :=
  ⟨.refl _, List.prefix_rfl, List.prefix_rfl, fun _ _ h _ => h, fun _ => rfl⟩

theorem Extends.trans (h : before.Extends middle) (h' : middle.Extends after) :
    before.Extends after where
  store := h.store.trans h'.store
  folded := h.folded.trans h'.folded
  reads := h.reads.trans h'.reads
  calls number call hget hreturned := h'.calls number call (h.calls number call hget hreturned)
    hreturned
  frozen hclosed := (h'.frozen (h.store.closed hclosed).1).trans (h.frozen hclosed)

/-- What has been read stays the fold of the first offers. -/
theorem ReadsInOrder.mono (h : use.ReadsInOrder reduce initial)
    (hin : use.store.payload.revision ≤ use.store.entered.length)
    (hgrows : use.store.Grows next.store) (hreads : next.reads = use.reads) :
    next.ReadsInOrder reduce initial := by
  obtain ⟨counts, hpairwise, hbound, heq⟩ := h
  refine ⟨counts, hpairwise, fun count hmem => Nat.le_trans (hbound count hmem) hgrows.revision,
    hreads.trans (heq.trans (List.map_congr_left fun count hmem => ?_))⟩
  obtain ⟨more, hmore⟩ := hgrows.entered
  rw [← hmore, Outlook.snapshot_append (Nat.le_trans (hbound count hmem) hin)]

theorem Sound.revision_le (h : use.Sound reduce breaks initial) :
    use.store.payload.revision ≤ use.store.entered.length := by
  rw [h.inStep.revision]
  exact Nat.le_trans (use.store.done_anti (by omega)) h.inStep.behind

/-- The store and the calls go on, and nothing is taken, folded or read. -/
theorem Sound.change (h : use.Sound reduce breaks initial) {store : Store ε σ}
    {calls : List (StoreCall ε)} (hstep : store.InStep reduce breaks initial)
    (hgrows : use.store.Grows store)
    (htake : ∀ work, 1 ≤ work →
      store.entered.take (store.done work) = use.store.entered.take (use.store.done work))
    (hknows : store.Knows calls)
    (hcalls : ∀ (number : Nat) (call : StoreCall ε), use.calls[number]? = some call →
      call.status.isUnderWay = false → calls[number]? = some call) :
    Sound reduce breaks initial { use with store, calls } ∧
      use.Extends { use with store, calls } := by
  refine ⟨⟨hstep, ?_, ?_, h.reads.mono h.revision_le hgrows rfl, hknows⟩,
    ⟨hgrows, List.prefix_rfl, List.prefix_rfl, hcalls, fun _ => rfl⟩⟩
  · exact h.taken.trans (htake 1 (Nat.le_refl 1)).symm
  · exact h.folded.trans (htake 2 (by omega)).symm

/-- A call is made. -/
theorem Sound.call (h : use.Sound reduce breaks initial) (delivery : Delivery) (event : ε) :
    (use.call delivery event).Sound reduce breaks initial ∧
      use.Extends (use.call delivery event) := by
  have hcalls (call : StoreCall ε) (number : Nat) (old : StoreCall ε)
      (hget : use.calls[number]? = some old) (_ : old.status.isUnderWay = false) :
      (use.calls ++ [call])[number]? = some old := by
    rwa [List.getElem?_append_left (List.getElem?_eq_some_iff.mp hget).1]
  have henlist := h.inStep.enlist event
  obtain ⟨-, -, hentered, hdone, -⟩ := use.store.enlist_eq event
  have htake (work : Nat) : (use.store.enlist event).entered.take
      ((use.store.enlist event).done work) = use.store.entered.take (use.store.done work) := by
    rw [hentered, hdone]
  have hwait (delivery : Delivery) :
      let next := { use with store := use.store.enlist event }.note
        ⟨delivery, event, some use.store.issued, .underWay⟩
      next.Sound reduce breaks initial ∧ use.Extends next :=
    h.change henlist (Store.grows_enlist _ event) (fun work _ => htake work)
      (h.knows.enlist delivery event) (hcalls _)
  cases delivery with
  | queued => exact hwait .queued
  | published => exact hwait .published
  | atOnce =>
    rw [StoreInUse.call]
    cases hoffer : use.store.tryOffer event with
    | error error =>
      refine h.change h.inStep (.refl _) (fun _ _ => rfl) ?_ (hcalls _)
      refine h.knows.note (.refl _) (fun _ => .inl) (List.Subset.refl _) ⟨?_, nofun⟩ nofun
      rintro (rfl | hdelivery)
      · exact Store.tryOffer_eq_closed hoffer
      · cases hdelivery
    | ok store =>
      have hpromote := (Store.tryOffer_eq_ok hoffer).1
      obtain ⟨hgrows, hknows⟩ := h.knows.tryOffer henlist.lost hoffer
      exact h.change (henlist.promote? hpromote) hgrows
        (fun work hwork => (henlist.take_promote? hpromote hwork).trans (htake work)) hknows
        (hcalls _)

/-- A call that is under way gets another status; what others have learnt stays. -/
theorem getElem?_setStatus {calls : List (StoreCall ε)} {changed : Nat} {call : StoreCall ε}
    (hchanged : calls[changed]? = some call) (hunder : call.status.isUnderWay = true)
    (status : StoreCall.Status) (number : Nat) (old : StoreCall ε)
    (hget : calls[number]? = some old) (hold : old.status.isUnderWay = false) :
    (calls.modify changed fun call => { call with status })[number]? = some old := by
  have hne : changed ≠ number := by
    rintro rfl
    rw [hchanged] at hget
    cases hget
    rw [hunder] at hold
    cases hold
  rw [List.getElem?_modify, hget]
  simp [hne]

theorem pending?_eq_some {number ticket : Nat} {call : StoreCall ε}
    (h : use.pending? number = some (call, ticket)) :
    use.calls[number]? = some call ∧ call.ticket = some ticket ∧
      call.status.isUnderWay = true := by
  obtain ⟨found, hget, h⟩ := Option.bind_eq_some_iff.mp h
  obtain ⟨_, hticket, h⟩ := Option.bind_eq_some_iff.mp h
  split at h
  case isTrue hunder =>
    cases h
    exact ⟨hget, hticket, hunder⟩
  case isFalse => cases h

/-- A call returns. -/
theorem Sound.conclude (h : use.Sound reduce breaks initial) {number : Nat}
    (hstep : use.step? (.conclude number) = some next) :
    next.Sound reduce breaks initial ∧ use.Extends next := by
  obtain ⟨⟨call, ticket⟩, hpending, hstep⟩ := Option.bind_eq_some_iff.mp hstep
  obtain ⟨result, hresult, hstep⟩ := Option.bind_eq_some_iff.mp hstep
  cases hstep
  obtain ⟨hget, hticket, hunder⟩ := pending?_eq_some hpending
  have htold := h.knows.says_callResult? h.inStep hget hticket hunder hresult
  exact h.change h.inStep (.refl _) (fun _ _ => rfl) (h.knows.setStatus hget _ htold)
    (getElem?_setStatus hget hunder _)

/-- A caller gives up, and leaves the line. -/
theorem Sound.giveUp (h : use.Sound reduce breaks initial) {number : Nat}
    (hstep : use.step? (.giveUp number) = some next) :
    next.Sound reduce breaks initial ∧ use.Extends next := by
  obtain ⟨⟨call, ticket⟩, hpending, hstep⟩ := Option.bind_eq_some_iff.mp hstep
  cases hstep
  obtain ⟨hget, hticket, hunder⟩ := pending?_eq_some hpending
  have hgrows := use.store.grows_withdraw ticket
  have hgiven := h.knows.setStatus hget .givenUp trivial
  refine h.change (h.inStep.withdraw ticket) hgrows (fun _ _ => rfl) ?_
    (getElem?_setStatus hget hunder _)
  refine hgiven.move hgrows (use.store.offered_withdraw_sublist ticket).subset
    fun other hother hstill offer hoffer heq => .inl (Store.mem_offered_withdraw hoffer ?_)
  -- the one with the ticket has given up, and no other call has it
  rintro rfl
  obtain ⟨i, hi⟩ := List.mem_iff_getElem?.mp hother
  have hmodified : (use.calls.modify number fun call => { call with status := .givenUp })[number]? =
      some { call with status := .givenUp } := by
    rw [List.getElem?_modify, hget]
    simp
  obtain rfl := hgiven.eq_of_ticket hi hmodified heq hticket
  rw [hi] at hmodified
  cases hmodified
  cases hstill

/-- The store takes a step. -/
theorem Sound.move? (h : use.Sound reduce breaks initial) {move : StoreMove}
    (hnext : use.move? move = some next) :
    next.Sound reduce breaks initial ∧ use.Extends next := by
  obtain ⟨store, hstore, hnext⟩ := Option.map_eq_some_iff.mp hnext
  have hstep := h.inStep.move? hstore
  have hgrows := Store.grows_move? h.inStep.lost hstore
  have hknows : store.Knows use.calls :=
    h.knows.move hgrows (Store.offered_move?_subset hstore) fun _ _ _ offer hmem _ =>
      Store.mem_offered_move? hstore hmem
  cases move with
  | line =>
    cases hnext
    exact h.change hstep hgrows (fun work hwork => h.inStep.take_promote? hstore hwork) hknows
      fun _ _ hget _ => hget
  | loop =>
    cases hnext
    obtain ⟨htaken, hfolded⟩ := h.inStep.take_advance? hstore
    refine ⟨⟨hstep, ?_, ?_, h.reads.mono h.revision_le hgrows rfl, hknows⟩,
      ⟨hgrows, List.prefix_append _ _, List.prefix_rfl, fun _ _ hget _ => hget, ?_⟩⟩
    · rw [htaken, h.taken]
    · rw [hfolded, h.folded]
    · intro hclosed
      rw [(Store.queues_advance? hstore).1] at hclosed
      cases hclosed

/-- Somebody reads the payload. -/
theorem Sound.read (h : use.Sound reduce breaks initial) {next : StoreInUse ε σ}
    (hstep : use.step? .read = some next) :
    next.Sound reduce breaks initial ∧ use.Extends next := by
  cases hstep
  refine ⟨⟨h.inStep, h.taken, h.folded, ?_, h.knows⟩,
    ⟨.refl _, List.prefix_rfl, List.prefix_append _ _, fun _ _ hget _ => hget, fun _ => rfl⟩⟩
  obtain ⟨counts, hpairwise, hbound, heq⟩ := h.reads
  refine ⟨counts ++ [use.store.payload.revision], ?_, fun count hmem => ?_, ?_⟩
  · rw [List.pairwise_append]
    refine ⟨hpairwise, List.pairwise_singleton _ _, fun count hmem latest hlatest => ?_⟩
    exact List.mem_singleton.mp hlatest ▸ hbound count hmem
  · obtain hmem | hmem := List.mem_append.mp hmem
    · exact hbound count hmem
    · exact Nat.le_of_eq (List.mem_singleton.mp hmem)
  · rw [List.map_append, ← heq, List.map_singleton, h.inStep.revision, ← h.inStep.payload]

/-- **Steps keep what is so.** -/
theorem Sound.step? (h : use.Sound reduce breaks initial) {label : StoreUse ε}
    (hstep : use.step? label = some next) :
    next.Sound reduce breaks initial ∧ use.Extends next := by
  cases label with
  | call delivery event =>
    cases hstep
    exact h.call delivery event
  | conclude number => exact h.conclude hstep
  | giveUp number => exact h.giveUp hstep
  | read => exact h.read hstep
  | store move => exact h.move? hstep

/-- **Courses of events keep what is so.** -/
theorem Sound.run? (h : use.Sound reduce breaks initial) {labels : List (StoreUse ε)}
    (hrun : use.run? labels = some next) :
    next.Sound reduce breaks initial ∧ use.Extends next := by
  induction labels generalizing use with
  | nil =>
    cases hrun
    exact ⟨h, .refl _⟩
  | cons label labels ih =>
    obtain ⟨middle, hstep, hrest⟩ := Option.bind_eq_some_iff.mp hrun
    obtain ⟨hmiddle, hextends⟩ := h.step? hstep
    obtain ⟨hnext, hextends'⟩ := ih hmiddle hrest
    exact ⟨hnext, hextends.trans hextends'⟩

theorem sound_opened (reduce : σ → ε → σ) (breaks : σ → Bool) (initial : σ) :
    (opened reduce breaks initial).Sound reduce breaks initial where
  inStep := Store.inStep_opened reduce breaks initial
  taken := rfl
  folded := rfl
  reads := ⟨[], .nil, nofun, rfl⟩
  knows := ⟨nofun, .nil, nofun, nofun⟩

/-! ### What holds in every course of events -/

/-- What is published, folded and read at one time. -/
structure SingleWriter (reduce : σ → ε → σ) (breaks : σ → Bool) (initial : σ)
    (use : StoreInUse ε σ) : Prop where
  /-- What is published is the fold of the first offers that entered the queue. -/
  payload : use.store.payload.value =
    Outlook.snapshot reduce initial use.store.entered use.store.payload.revision
  /-- These have been folded. -/
  published : use.store.published <+: use.folded
  /-- What has been folded was taken out of the queue before, in the same order. -/
  folded : use.folded <+: use.taken
  /-- What has been taken out of the queue entered it before, in the same order. -/
  taken : use.taken <+: use.store.entered
  /-- At most one offer is in the queue. -/
  queue : use.store.entered.length ≤ use.taken.length + 1
  /-- No offer enters the queue twice. -/
  once : (use.store.entered.map Offer.ticket).Nodup
  /-- Every offer in the queue is the one of some call. -/
  owners : ∀ offer ∈ use.store.entered, ∃ call ∈ use.calls, call.Makes offer
  /-- No two calls have made the same offer. -/
  tickets : (use.calls.filterMap StoreCall.ticket).Nodup
  /-- What was read is the fold of more and more of the first offers. -/
  reads : use.ReadsInOrder reduce initial
  /-- The loop is over if and only if the inspector has broken down. -/
  closed : use.store.isClosed = use.store.shown.any breaks

/-- What is so at a later time of what has happened before. -/
structure Upheld (breaks : σ → Bool) (before after : StoreInUse ε σ) : Prop where
  /-- The sequence of offers goes on. -/
  entered : before.store.entered <+: after.store.entered
  /-- What has been folded has been folded. -/
  folded : before.folded <+: after.folded
  /-- The number of offers behind the payload does not go down. -/
  revision : before.store.payload.revision ≤ after.store.payload.revision
  /-- What a call has returned was so and is so. -/
  calls : ∀ (number : Nat) (call : StoreCall ε) (result : Except StoreError Unit),
    before.calls[number]? = some call → call.status = .returned result →
      after.calls[number]? = some call ∧ call.Says after.store result
  /-- If somebody has failed to hand over an event, it is not folded. -/
  unfolded : ∀ call ∈ before.calls, ∀ error, call.status = .returned (.error error) →
    call.delivery ≠ .published → ∀ offer ∈ after.folded, call.ticket ≠ some offer.ticket
  /-- Once the inspector has broken down, nothing is published or folded, and the loop is over. -/
  closed : before.store.shown.any breaks = true →
    after.store.isClosed = true ∧ after.store.payload = before.store.payload ∧
      after.folded = before.folded

theorem Sound.singleWriter (h : use.Sound reduce breaks initial) :
    use.SingleWriter reduce breaks initial where
  payload := h.inStep.payload.trans (congrArg _ h.inStep.revision.symm)
  published := by
    rw [Store.published, h.inStep.revision, h.folded]
    exact List.take_prefix_take_left (use.store.done_anti (by omega))
  folded := by
    rw [h.folded, h.taken]
    exact List.take_prefix_take_left (use.store.done_anti (by omega))
  taken := h.taken ▸ List.take_prefix _ _
  queue := by
    rw [h.taken, List.length_take, Nat.min_eq_left h.inStep.behind]
    exact h.inStep.ahead
  once := by
    have htickets := h.inStep.tickets.sublist ((List.sublist_append_left _ _).map _)
    exact htickets.imp Nat.ne_of_lt
  owners offer hmem := h.knows.owners offer (List.mem_append_left _ hmem)
  tickets := h.knows.tickets.imp Nat.ne_of_lt
  reads := h.reads
  closed := h.inStep.broken

theorem Sound.upheld (h : before.Sound reduce breaks initial)
    (hafter : after.Sound reduce breaks initial) (hextends : before.Extends after) :
    before.Upheld breaks after := by
  have htold {number : Nat} {call : StoreCall ε} {result : Except StoreError Unit}
      (hget : before.calls[number]? = some call) (hs : call.status = .returned result) :
      after.calls[number]? = some call ∧ call.Says after.store result := by
    have hstill := hextends.calls number call hget (by rw [hs]; rfl)
    have hsound := hafter.knows.sound call (List.mem_of_getElem? hstill)
    rw [StoreCall.Sound, hs] at hsound
    exact ⟨hstill, hsound⟩
  refine ⟨hextends.store.entered, hextends.folded, hextends.store.revision,
    fun number call result hget hs => htold hget hs,
    fun call hmem error hs hdelivery offer hfolded => ?_, fun hbroken => ?_⟩
  · obtain ⟨number, hget⟩ := List.mem_iff_getElem?.mp hmem
    have hnot := (htold hget hs).2.2
    rw [if_neg hdelivery] at hnot
    rw [hafter.folded] at hfolded
    exact hnot offer (List.mem_append_left _ (List.mem_of_mem_take hfolded))
  · have hclosed := h.inStep.broken.trans hbroken
    obtain ⟨hafter, hpayload, -⟩ := hextends.store.closed hclosed
    exact ⟨hafter, hpayload, hextends.frozen hclosed⟩

/-- **A store has a single writer.** Whatever is done with its handles, and whichever steps it takes
in between, what is published and read is the fold of the first offers, nothing is folded twice, and
what calls return is so and stays so. -/
theorem single_writer_fold (reduce : σ → ε → σ) (breaks : σ → Bool) (initial : σ)
    {labels : List (StoreUse ε)} (h : (opened reduce breaks initial).run? labels = some use) :
    use.SingleWriter reduce breaks initial ∧
      ∀ (labels : List (StoreUse ε)) (later : StoreInUse ε σ),
        use.run? labels = some later → use.Upheld breaks later := by
  have hsound := ((sound_opened reduce breaks initial).run? h).1
  refine ⟨hsound.singleWriter, fun labels later hlater => ?_⟩
  obtain ⟨hafter, hextends⟩ := hsound.run? hlater
  exact hsound.upheld hafter hextends

/-- One event is published, and the inspector breaks down on the next one while a third is in the
queue and a fourth in line. -/
theorem single_writer_fold_breakdown :
    let labels : List (StoreUse Nat) :=
      [.call .published 1, .store .line, .store .loop, .store .loop, .store .loop, .store .loop,
        .store .loop, .conclude 0, .read, .call .published 9, .store .line, .store .loop,
        .call .atOnce 2, .call .queued 3, .call .atOnce 4, .store .loop, .store .loop, .conclude 1,
        .conclude 3, .read]
    ∃ use, (opened (· + ·) (· ≥ 5) 0).run? labels = some use ∧ use.store.payload = ⟨1, 1⟩ ∧
      use.reads = [1, 1] ∧ use.folded.map Offer.event = [1, 9] ∧
      use.SingleWriter (· + ·) (· ≥ 5) 0 ∧
      ∀ labels later, use.run? labels = some later → use.Upheld (· ≥ 5) later := by
  intro labels
  obtain ⟨use, hrun, hfacts⟩ : ∃ use, (opened (· + ·) (· ≥ 5) 0).run? labels = some use ∧
      use.store.payload = ⟨1, 1⟩ ∧ use.reads = [1, 1] ∧ use.folded.map Offer.event = [1, 9] :=
    ⟨_, rfl, rfl, rfl, rfl⟩
  obtain ⟨hpayload, hreads, hfolded⟩ := hfacts
  exact ⟨use, hrun, hpayload, hreads, hfolded, single_writer_fold _ _ _ hrun⟩

end StoreInUse

end RoundTable
