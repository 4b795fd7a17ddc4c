import RoundTable.Proofs.Automaton.Fates

/-!
# Whichever sender goes on first

Once a batch has been started, the outlook of the store is settled, and every sender will learn what
that outlook says about its ticket, whichever way the steps of the store and of the senders follow
each other from then on. So the results do not depend on the course of the batch, nor do the payload
and what the inspector is shown. The history and the phase depend on nothing but the order in which
the senders go on: each of them goes on once, and does what it would do if the store had settled at
once.

## Main definitions

* `Machine.SameFront`: machines that differ only in their stores
* `Machine.finishEach`: the ends of given sends, one after another
* `Machine.Abreast`: a machine beside what it would be if its store had settled
* `Machine.Committed`: what has become of a machine once a batch is through

## Main results

* `Machine.goingOn_of_bringThrough?`: every sender that waits goes on exactly once
* `Machine.Abreast.bringThrough?`: what the senders come to, in whatever order they go on
* `Machine.exists_bringThrough?`: every order is the order of some course
* `Machine.exists_committed`: what a batch comes to
* `Machine.Committed.perm_take`, `Machine.Committed.eq_take`: the passages are those of the first
  valid events, and in their order if the senders go on in the order of the batch
-/

namespace RoundTable

variable {φ κ ε σ : Type} {senders later : List (BatchStage φ κ ε)} {place : Nat}
  {sending : Sending φ κ}

namespace Machine

variable {machine next before after : Machine φ κ ε σ} {labels : List BatchLabel}
  {results : List (Except (TransitionError φ ε) Unit)}

/-! ### Machines beside each other -/

/-- The same phase, history and clock, with whatever store. -/
structure SameFront (before after : Machine φ κ ε σ) : Prop where
  phase : after.phase = before.phase
  history : after.history = before.history
  clock : after.clock = before.clock

theorem SameFront.record (h : SameFront before after) (sending : Sending φ κ) :
    SameFront (before.record sending) (after.record sending) := by
  refine ⟨h.phase, ?_, h.clock⟩
  simp [Machine.record, h.history, h.clock]

/-- A machine at which senders are under way, beside the one that it would be if the store had come
to what it has in prospect. -/
structure Abreast (machine front : Machine φ κ ε σ) (senders : List (BatchStage φ κ ε)) : Prop where
  sound : machine.store.Sound
  awaited : ∀ ticket ∈ machine.store.held.map Offer.ticket,
    ∃ place sending, sendingAt? senders place = some sending ∧ sending.ticket = ticket
  same : SameFront machine front
  confirmed : front.store.confirmed = machine.store.outlook.confirmed

variable {front : Machine φ κ ε σ}

theorem Abreast.storeStep? (h : Abreast machine front senders) {move : StoreMove}
    (hstep : machine.storeStep? move = some next) :
    Abreast next front senders ∧ next.store.outlook = machine.store.outlook := by
  obtain ⟨store, hmove, rfl⟩ := Option.map_eq_some_iff.mp hstep
  have houtlook := Store.outlook_move? hmove
  have hsub := (Store.sublist_held_move? hmove).map Offer.ticket
  refine ⟨⟨h.sound.move? hmove, fun ticket hmem => h.awaited ticket (hsub.subset hmem), ?_, ?_⟩,
    houtlook⟩
  · exact ⟨h.same.phase, h.same.history, h.same.clock⟩
  · exact h.confirmed.trans (congrArg Outlook.confirmed houtlook.symm)

variable [DecidableEq φ]

/-! ### What a sender does when it goes on -/

theorem store_finish (machine : Machine φ κ ε σ) (sending : Sending φ κ) :
    (machine.finish sending).1.store = machine.store := by
  rw [finish]
  split
  · rfl
  · obtain ⟨phase, heq, -⟩ := machine.retreat_eq sending
    rw [heq]

theorem finish_snd (machine : Machine φ κ ε σ) (sending : Sending φ κ) :
    (machine.finish sending).2 =
      BatchStage.resultBy machine.store.confirmed (.waiting sending) := by
  rw [finish, BatchStage.resultBy]
  split <;> rfl

theorem SameFront.retreat (h : SameFront before after) (sending : Sending φ κ) :
    SameFront (before.retreat sending) (after.retreat sending) := by
  rw [Machine.retreat, Machine.retreat, h.phase]
  split
  · refine ⟨?_, h.history, h.clock⟩
    simp [enter, h.phase]
  · exact h

/-- A sender that goes on changes neither the edges nor the store. -/
theorem keeps_finish? {result : Except (TransitionError φ ε) Unit}
    (h : machine.finish? sending = some (next, result)) :
    next.table = machine.table ∧ next.store = machine.store := by
  obtain ⟨learnt, -, heq⟩ := Option.map_eq_some_iff.mp h
  obtain ⟨phase, hretreat, -⟩ := machine.retreat_eq sending
  cases learnt with
  | ok =>
    cases heq
    exact ⟨rfl, rfl⟩
  | error error =>
    cases heq
    rw [hretreat]
    exact ⟨rfl, rfl⟩

/-- A sender that goes on does what it would do if the store had come to what it has in prospect. -/
theorem finish?_eq_some {result : Except (TransitionError φ ε) Unit}
    (hfront : SameFront machine front)
    (hconfirmed : front.store.confirmed = machine.store.outlook.confirmed)
    (h : machine.finish? sending = some (next, result)) :
    (front.finish sending).2 = result ∧ SameFront next (front.finish sending).1 ∧
      (sending.ticket ∉ machine.store.confirmed →
        sending.ticket ∉ machine.store.held.map Offer.ticket) := by
  obtain ⟨learnt, hlearnt, heq⟩ := Option.map_eq_some_iff.mp h
  obtain ⟨hknown, hgone⟩ := Store.commitResult?_eq_some hlearnt
  rw [← hconfirmed] at hknown
  cases learnt with
  | ok =>
    cases heq
    rw [finish, if_pos (hknown.mp rfl)]
    exact ⟨rfl, hfront.record sending, hgone⟩
  | error error =>
    cases heq
    have hnot : sending.ticket ∉ front.store.confirmed := by
      intro hmem
      cases hknown.mpr hmem
    rw [finish, if_neg hnot]
    exact ⟨rfl, hfront.retreat sending, hgone⟩

/-- Whoever goes on has waited, and is through from then on. -/
theorem goOn?_eq_some (h : machine.goOn? senders place = some (next, later)) :
    ∃ sending result, sendingAt? senders place = some sending ∧
      machine.finish? sending = some (next, result) ∧
      later = senders.set place (.through result) := by
  rw [goOn?] at h
  split at h
  case h_1 sending hstage =>
    obtain ⟨⟨other, result⟩, hfinish, heq⟩ := Option.map_eq_some_iff.mp h
    cases heq
    exact ⟨sending, result, by rw [sendingAt?, hstage]; rfl, hfinish, rfl⟩
  case h_2 => cases h

/-- The ends of sends, one after another. -/
def finishEach (machine : Machine φ κ ε σ) (sendings : List (Sending φ κ)) : Machine φ κ ε σ :=
  sendings.foldl (fun machine sending => (machine.finish sending).1) machine

/-! ### Courses of a batch -/

/-- **Every sender that waits goes on exactly once.** -/
theorem goingOn_of_bringThrough?
    (h : machine.bringThrough? senders labels = some (after, results)) :
    (goingOn labels).Nodup ∧
      ∀ place, place ∈ goingOn labels ↔ (sendingAt? senders place).isSome := by
  induction labels generalizing machine senders with
  | nil =>
    obtain ⟨results, hresults, -⟩ := Option.map_eq_some_iff.mp h
    obtain rfl := eq_through_of_mapM hresults
    refine ⟨List.nodup_nil, fun place => ?_⟩
    simp [goingOn, sendingAt?_through]
  | cons label labels ih =>
    cases label with
    | store move =>
      obtain ⟨next, -, hcourse⟩ := Option.bind_eq_some_iff.mp h
      exact ih hcourse
    | sender place =>
      obtain ⟨⟨next, later⟩, hstep, hcourse⟩ := Option.bind_eq_some_iff.mp h
      obtain ⟨sending, result, hsending, -, rfl⟩ := goOn?_eq_some hstep
      obtain ⟨hnodup, hplaces⟩ := ih hcourse
      have hgone : place ∉ goingOn labels := by
        simp [hplaces, sendingAt?_set hsending]
      refine ⟨List.nodup_cons.mpr ⟨hgone, hnodup⟩, fun other => ?_⟩
      change other ∈ place :: goingOn labels ↔ _
      rw [List.mem_cons, hplaces, sendingAt?_set hsending]
      by_cases heq : other = place
      · simp [heq, hsending]
      · simp [heq]

/-- What a course of a batch keeps. -/
theorem sound_bringThrough? (h : machine.bringThrough? senders labels = some (after, results))
    (hsound : machine.store.Sound) :
    after.table = machine.table ∧ after.store.Sound ∧ results.length = senders.length := by
  induction labels generalizing machine senders with
  | nil =>
    obtain ⟨results, hresults, heq⟩ := Option.map_eq_some_iff.mp h
    cases heq
    refine ⟨rfl, hsound, ?_⟩
    rw [eq_through_of_mapM hresults, List.length_map]
  | cons label labels ih =>
    cases label with
    | store move =>
      obtain ⟨next, hstep, hcourse⟩ := Option.bind_eq_some_iff.mp h
      have hkept : next.table = machine.table ∧ next.store.Sound := by
        obtain ⟨store, hmove, rfl⟩ := Option.map_eq_some_iff.mp hstep
        exact ⟨rfl, hsound.move? hmove⟩
      obtain ⟨htable, hsound, hlength⟩ := ih hcourse hkept.2
      exact ⟨htable.trans hkept.1, hsound, hlength⟩
    | sender place =>
      obtain ⟨⟨next, later⟩, hstep, hcourse⟩ := Option.bind_eq_some_iff.mp h
      obtain ⟨sending, result, -, hfinish, rfl⟩ := goOn?_eq_some hstep
      obtain ⟨hkept, hstore⟩ := keeps_finish? hfinish
      rw [← hstore] at hsound
      obtain ⟨htable, hsound, hlength⟩ := ih hcourse hsound
      exact ⟨htable.trans hkept, hsound, hlength.trans List.length_set⟩

/-- A sender that goes on does the same at both machines, and learns what is settled. -/
theorem Abreast.goOn? (h : Abreast machine front senders)
    (hstep : machine.goOn? senders place = some (next, later)) :
    ∃ sending result, sendingAt? senders place = some sending ∧
      later = senders.set place (.through result) ∧ (front.finish sending).2 = result ∧
      Abreast next (front.finish sending).1 later ∧
      next.store.outlook = machine.store.outlook := by
  obtain ⟨sending, result, hsending, hfinish, rfl⟩ := goOn?_eq_some hstep
  obtain ⟨hresult, hnext, hgone⟩ := finish?_eq_some h.same h.confirmed hfinish
  have hstore := (keeps_finish? hfinish).2
  refine ⟨sending, result, hsending, rfl, hresult, ⟨hstore ▸ h.sound, ?_, hnext, ?_⟩,
    congrArg Store.outlook hstore⟩
  · -- the ticket of the sender that goes on is not held any more, so the others are awaited still
    rw [hstore]
    intro ticket hmem
    obtain ⟨other, awaited, hawaited, rfl⟩ := h.awaited ticket hmem
    refine ⟨other, awaited, ?_, rfl⟩
    rw [sendingAt?_set hsending, if_neg, hawaited]
    rintro rfl
    cases hsending.symm.trans hawaited
    exact hgone (h.sound.unconfirmed _ hmem) hmem
  · rw [front.store_finish, hstore, h.confirmed]

/-- **Every course of a batch.** Whichever way the steps of the store and of the senders follow each
other, the senders do, in the order in which they go on, what they would do if the store had come to
what it had in prospect from the beginning; and the store has come to that. -/
theorem Abreast.bringThrough? (h : Abreast machine front senders)
    (hcourse : machine.bringThrough? senders labels = some (after, results)) :
    results = senders.map (BatchStage.resultBy front.store.confirmed) ∧
      SameFront after (front.finishEach ((goingOn labels).filterMap (sendingAt? senders))) ∧
      after.store.outlook = machine.store.outlook ∧ after.store.held = [] := by
  induction labels generalizing machine front senders with
  | nil =>
    obtain ⟨results, hresults, heq⟩ := Option.map_eq_some_iff.mp hcourse
    cases heq
    obtain rfl := eq_through_of_mapM hresults
    refine ⟨?_, h.same, rfl, List.eq_nil_iff_forall_not_mem.mpr fun offer hmem => ?_⟩
    · rw [List.map_map]
      exact (List.map_id _).symm
    · obtain ⟨place, sending, hsending, -⟩ := h.awaited _ (List.mem_map_of_mem hmem)
      cases (sendingAt?_through results place).symm.trans hsending
  | cons label labels ih =>
    cases label with
    | store move =>
      obtain ⟨next, hstep, hcourse⟩ := Option.bind_eq_some_iff.mp hcourse
      obtain ⟨hnext, houtlook⟩ := h.storeStep? hstep
      rw [← houtlook]
      exact ih hnext hcourse
    | sender place =>
      obtain ⟨⟨next, later⟩, hstep, hcourse⟩ := Option.bind_eq_some_iff.mp hcourse
      obtain ⟨sending, result, hsending, rfl, hresult, hnext, houtlook⟩ := h.goOn? hstep
      obtain ⟨hresults, hfront, hcome, hgone⟩ := ih hnext hcourse
      refine ⟨?_, ?_, hcome.trans houtlook, hgone⟩
      · rw [hresults, front.store_finish]
        refine map_resultBy_set hsending ?_
        rw [← hresult, finish_snd]
      · have hpast : place ∉ goingOn labels := by
          simp [(goingOn_of_bringThrough? hcourse).2, sendingAt?_set hsending]
        have hplaces : (goingOn (.sender place :: labels)).filterMap (sendingAt? senders) =
            sending :: (goingOn labels).filterMap (sendingAt? senders) := by
          change (place :: goingOn labels).filterMap (sendingAt? senders) = _
          rw [List.filterMap_cons, hsending]
        rw [hplaces, ← filterMap_sendingAt?_set hsending result hpast]
        exact hfront

/-- Whichever way a batch goes, its senders do, in the order in which they go on, what they would do
if the store settled at once; and the store has nothing to do any more. -/
theorem front_of_batch? [DecidableEq κ] [Tagged ε κ] (hrest : machine.store.AtRest)
    {events : List ε} (h : machine.batch? events labels = some (after, results)) :
    let started := machine.startAll events
    let senders : List (BatchStage φ κ ε) := started.2.map .ofStart
    results = senders.map (BatchStage.resultBy started.1.settle.store.confirmed) ∧
      SameFront after
        (started.1.settle.finishEach ((goingOn labels).filterMap (sendingAt? senders))) ∧
      { payload := after.payload
        confirmed := after.store.confirmed
        shown := after.store.shown
        isOpen := !after.store.isClosed } = started.1.store.outlook ∧
      after.store.held = [] := by
  intro started senders
  obtain ⟨hsound, hheld⟩ := startAll_spec hrest events
  have hawaited : ∀ ticket ∈ started.1.store.held.map Offer.ticket,
      ∃ place sending, sendingAt? senders place = some sending ∧ sending.ticket = ticket := by
    intro ticket hmem
    obtain ⟨sending, hsending, rfl⟩ := List.mem_map.mp (hheld ticket hmem)
    obtain ⟨first, hfirst, hok⟩ := List.mem_filterMap.mp hsending
    cases first with
    | error error => cases hok
    | ok other =>
      cases hok
      obtain ⟨place, hplace⟩ := List.mem_iff_getElem?.mp hfirst
      refine ⟨place, sending, ?_, rfl⟩
      rw [sendingAt?, List.getElem?_map, hplace]
      rfl
  have habreast : Abreast started.1 started.1.settle senders := by
    refine ⟨hsound, hawaited, ⟨rfl, rfl, rfl⟩, ?_⟩
    rw [hsound.outlook_settle]
    rfl
  obtain ⟨hresults, hfront, hcome, hgone⟩ := habreast.bringThrough? h
  exact ⟨hresults, hfront, (Store.outlook_of_held_eq_nil hgone).symm.trans hcome, hgone⟩

/-! ### Every order is possible -/

/-- Once the store has settled, the senders have nothing to wait for. -/
theorem bringThrough?_of_held_eq_nil (hheld : machine.store.held = []) {order : List Nat}
    (hnodup : order.Nodup) (hplaces : ∀ place, place ∈ order ↔ (sendingAt? senders place).isSome) :
    machine.bringThrough? senders (order.map .sender) =
      some (machine.finishEach (order.filterMap (sendingAt? senders)),
        senders.map (BatchStage.resultBy machine.store.confirmed)) := by
  induction order generalizing machine senders with
  | nil =>
    have hnone (place : Nat) : sendingAt? senders place = none :=
      Option.not_isSome_iff_eq_none.mp fun h => nomatch (hplaces place).mpr h
    rw [List.map_nil, bringThrough?, mapM_result?_of_sendingAt? hnone machine.store.confirmed]
    rfl
  | cons place order ih =>
    obtain ⟨hgone, hnodup⟩ := List.nodup_cons.mp hnodup
    obtain ⟨sending, hsending⟩ := Option.isSome_iff_exists.mp
      ((hplaces place).mp List.mem_cons_self)
    have hfinish : machine.finish? sending = some (machine.finish sending) := by
      rw [finish?, finish, Store.commitResult?, Store.holds_of_held_eq_nil hheld]
      split <;> rfl
    have hgoOn : machine.goOn? senders place = some ((machine.finish sending).1,
        senders.set place (.through (machine.finish sending).2)) := by
      rw [goOn?, getElem?_of_sendingAt? hsending]
      dsimp only
      rw [hfinish]
      rfl
    have hothers (other : Nat) : other ∈ order ↔ (sendingAt?
        (senders.set place (.through (machine.finish sending).2)) other).isSome := by
      rw [sendingAt?_set hsending]
      by_cases heq : other = place
      · simp [heq, hgone]
      · rw [if_neg heq, ← hplaces, List.mem_cons]
        simp [heq]
    rw [List.map_cons, bringThrough?, hgoOn, Option.bind_some,
      ih ((machine.store_finish sending).symm ▸ hheld) hnodup hothers,
      filterMap_sendingAt?_set hsending _ hgone, machine.store_finish,
      map_resultBy_set hsending (machine.finish_snd sending).symm, List.filterMap_cons, hsending]
    rfl

theorem bringThrough?_moves {moves : List StoreMove} {store : Store ε σ}
    (h : moves.foldlM Store.move? machine.store = some store) (senders : List (BatchStage φ κ ε))
    (labels : List BatchLabel) :
    machine.bringThrough? senders (moves.map .store ++ labels) =
      { machine with store }.bringThrough? senders labels := by
  induction moves generalizing machine with
  | nil =>
    cases h
    rfl
  | cons move moves ih =>
    obtain ⟨next, hmove, hrest⟩ := Option.bind_eq_some_iff.mp h
    rw [List.map_cons, List.cons_append, bringThrough?, storeStep?, hmove, Option.map_some,
      Option.bind_some]
    exact @ih { machine with store := next } hrest

/-- **Every order is possible.** The store may settle before anybody goes on, and then the senders
that wait may go on in any order. -/
theorem exists_bringThrough? (hsound : machine.store.Sound) {order : List Nat}
    (hnodup : order.Nodup) (hplaces : ∀ place, place ∈ order ↔ (sendingAt? senders place).isSome) :
    ∃ labels, goingOn labels = order ∧ machine.bringThrough? senders labels =
      some (machine.settle.finishEach (order.filterMap (sendingAt? senders)),
        senders.map (BatchStage.resultBy machine.settle.store.confirmed)) := by
  obtain ⟨moves, hmoves⟩ := machine.store.exists_moves_settle
  refine ⟨moves.map .store ++ order.map .sender, by simp, ?_⟩
  rw [bringThrough?_moves hmoves]
  exact bringThrough?_of_held_eq_nil hsound.settle.2 hnodup hplaces

theorem finishAll_eq (machine : Machine φ κ ε σ)
    (started : List (Except (TransitionError φ ε) (Sending φ κ))) :
    machine.finishAll started =
      (machine.finishEach ((started.map BatchStage.ofStart).filterMap BatchStage.sending?),
        (started.map BatchStage.ofStart).map
          (BatchStage.resultBy machine.store.confirmed)) := by
  induction started generalizing machine with
  | nil => rfl
  | cons first rest ih =>
    cases first with
    | error error =>
      rw [finishAll, ih]
      rfl
    | ok sending =>
      rw [finishAll]
      dsimp only
      rw [ih, machine.store_finish, finish_snd]
      rfl

/-- The order of the batch is one of them. -/
theorem exists_bringThrough?_finishAll (hsound : machine.store.Sound)
    (started : List (Except (TransitionError φ ε) (Sending φ κ))) :
    ∃ labels, (goingOn labels).Pairwise (· < ·) ∧
      machine.bringThrough? (started.map .ofStart) labels =
        some (machine.settle.finishAll started) := by
  let senders : List (BatchStage φ κ ε) := started.map .ofStart
  let order := (List.range senders.length).filter fun place => (sendingAt? senders place).isSome
  have hsorted : order.Pairwise (· < ·) := List.pairwise_lt_range.filter _
  have hplaces (place : Nat) : place ∈ order ↔ (sendingAt? senders place).isSome := by
    rw [List.mem_filter, List.mem_range, and_iff_right_iff_imp]
    intro h
    obtain ⟨sending, hsending⟩ := Option.isSome_iff_exists.mp h
    exact (List.getElem?_eq_some_iff.mp (getElem?_of_sendingAt? hsending)).1
  obtain ⟨labels, hlabels, hcourse⟩ := exists_bringThrough? hsound hsorted.nodup hplaces
  refine ⟨labels, hlabels ▸ hsorted, ?_⟩
  rw [hcourse, finishAll_eq, filterMap_filter_isSome, filterMap_sendingAt?]

/-! ### The end of a batch -/

/-- **The end of a batch.** Of the senders that go on, those whose events pass record the passages,
and the others go back, in the order in which they go on. -/
theorem finishEach_of_fate [Tagged ε κ] {sendingAt : Nat → Option (Sending φ κ)}
    {passedAt lostAt : Nat → Option (Valid φ ε)}
    (hfate : ∀ place,
      SenderFate machine.store.confirmed (sendingAt place) (passedAt place) (lostAt place))
    (places : List Nat) :
    (machine.finishEach (places.filterMap sendingAt)).history.passages =
        machine.history.passages ++ (places.filterMap passedAt).map machine.passage ∧
      (machine.finishEach (places.filterMap sendingAt)).phase.value =
        unwind machine.phase.value (places.filterMap lostAt) := by
  induction places generalizing machine with
  | nil => exact ⟨(List.append_nil _).symm, rfl⟩
  | cons place places ih =>
    have hplace := hfate place
    rw [List.filterMap_cons, List.filterMap_cons, List.filterMap_cons]
    generalize sendingAt place = sending, passedAt place = passed, lostAt place = lost at hplace ⊢
    cases hplace with
    | through => exact ih hfate
    | @passes valid ticket kept =>
      have hfinish : (machine.finish ⟨valid.source, valid.target, tag valid.event, ticket⟩).1 =
          machine.record ⟨valid.source, valid.target, tag valid.event, ticket⟩ := by
        rw [finish, if_pos kept]
      obtain ⟨hhistory, hphase⟩ :=
        @ih (machine.record ⟨valid.source, valid.target, tag valid.event, ticket⟩) hfate
      rw [finishEach, List.foldl_cons, hfinish]
      refine ⟨hhistory.trans ?_, hphase⟩
      rw [List.map_cons, List.append_cons]
      rfl
    | @fails valid ticket gone =>
      obtain ⟨phase, heq, hvalue⟩ :=
        machine.retreat_eq ⟨valid.source, valid.target, tag valid.event, ticket⟩
      have hfinish : (machine.finish ⟨valid.source, valid.target, tag valid.event, ticket⟩).1 =
          { machine with phase } := by
        rw [finish, if_neg gone, heq]
      obtain ⟨hhistory, hphase⟩ := @ih { machine with phase } hfate
      rw [finishEach, List.foldl_cons, hfinish]
      refine ⟨hhistory, hphase.trans ?_⟩
      rw [hvalue]
      rfl

variable [Tagged ε κ]

/-- What has become of a machine once a batch is through of which the given number of valid events
have passed, and whose senders have gone on in the given order. -/
structure Committed (before : Machine φ κ ε σ)
    (judged : List (Except (TransitionError φ ε) (Valid φ ε))) (n : Nat) (order : List Nat)
    (after : Machine φ κ ε σ) (results : List (Except (TransitionError φ ε) Unit)) : Prop where
  payload : after.payload = before.payloadAfter ((validOf judged).take n)
  nodup : order.Nodup
  places (place : Nat) : place ∈ order ↔ ∃ valid, judged[place]? = some (.ok valid)
  history : after.history.passages =
    before.history.passages ++ (order.filterMap (passedAt? judged results)).map before.passage
  shown : after.store.shown = before.store.shown ++
    (List.range (min (n + 1) (validOf judged).length)).map fun k =>
      before.payloadAfter ((validOf judged).take (k + 1))
  isClosed : after.store.isClosed = decide (n < (validOf judged).length)
  phase : after.phase.value = unwind (lastPhase before.phase.value (validOf judged))
    (order.filterMap (lostAt? judged results))
  results : results = outcomes n judged

variable {judged : List (Except (TransitionError φ ε) (Valid φ ε))} {n : Nat} {order : List Nat}

theorem Committed.mem_of_valid (h : before.Committed judged n order after results) {place : Nat}
    {valid : Valid φ ε} (hvalid : judged[place]? = some (.ok valid)) :
    place ∈ order ∧ place < judged.length :=
  ⟨(h.places place).mpr ⟨valid, hvalid⟩, (List.getElem?_eq_some_iff.mp hvalid).1⟩

/-- Whatever sender an event has that passes, it goes on. -/
theorem Committed.mem_of_passedAt? (h : before.Committed judged n order after results) {place : Nat}
    (hpassed : (passedAt? judged results place).isSome) :
    place ∈ order ∧ place < judged.length := by
  rw [passedAt?] at hpassed
  split at hpassed
  case h_1 hvalid _ => exact h.mem_of_valid hvalid
  case h_2 => cases hpassed

theorem Committed.mem_of_lostAt? (h : before.Committed judged n order after results) {place : Nat}
    (hlost : (lostAt? judged results place).isSome) : place ∈ order ∧ place < judged.length := by
  rw [lostAt?] at hlost
  split at hlost
  case h_1 hvalid _ => exact h.mem_of_valid hvalid
  case h_2 => cases hlost

/-- The events that pass are the first valid ones, in whatever order their senders go on. -/
theorem Committed.perm_take (h : before.Committed judged n order after results) :
    (order.filterMap (passedAt? judged results)).Perm ((validOf judged).take n) := by
  rw [← filterMap_passedAt?, ← h.results]
  exact filterMap_perm_range h.nodup fun place => h.mem_of_passedAt?

/-- If the senders go on in the order of the batch, the passages are recorded in that order. -/
theorem Committed.eq_take (h : before.Committed judged n order after results)
    (hsorted : order.Pairwise (· < ·)) :
    order.filterMap (passedAt? judged results) = (validOf judged).take n := by
  rw [← filterMap_passedAt?, ← h.results]
  exact filterMap_eq_range hsorted fun place => h.mem_of_passedAt?

theorem Committed.perm_drop (h : before.Committed judged n order after results) :
    (order.filterMap (lostAt? judged results)).Perm ((validOf judged).drop n) := by
  rw [← filterMap_lostAt?, ← h.results]
  exact filterMap_perm_range h.nodup fun place => h.mem_of_lostAt?

/-- If the senders go on in the order of the batch, those that have lost their events go back in
that order. -/
theorem Committed.eq_drop (h : before.Committed judged n order after results)
    (hsorted : order.Pairwise (· < ·)) :
    order.filterMap (lostAt? judged results) = (validOf judged).drop n := by
  rw [← filterMap_lostAt?, ← h.results]
  exact filterMap_eq_range hsorted fun place => h.mem_of_lostAt?

variable [DecidableEq κ]

/-- **What a batch comes to**, in every course. -/
theorem exists_committed (hrest : machine.store.AtRest) (hopen : machine.store.isClosed = false)
    (events : List ε) :
    let judged := machine.judged machine.phase.value events
    ∃ n, machine.Endures (validOf judged) n ∧
      ∀ labels after results, machine.batch? events labels = some (after, results) →
        machine.Committed judged n (goingOn labels) after results := by
  intro judged
  obtain ⟨hstarted, hlaunched⟩ :
      (machine.startAll events).2 = enroll machine.store.issued judged ∧
        Launched machine (validOf judged) (machine.startAll events).1 :=
    launched_startAll hopen hrest.sound events
  obtain ⟨n, hendures, houtlook⟩ := hlaunched.outlook_eq hrest hopen
  refine ⟨n, hendures, fun labels after results hcourse => ?_⟩
  obtain ⟨hnodup, hplaces⟩ := goingOn_of_bringThrough? hcourse
  obtain ⟨hresults, hfront, hcome, hgone⟩ := front_of_batch? hrest hcourse
  let settled := (machine.startAll events).1.settle
  have hsettled :
      settled.store.confirmed = (machine.startAll events).1.store.outlook.confirmed := by
    rw [hlaunched.sound.outlook_settle]
    rfl
  have hconfirmed (k : Nat) : machine.store.issued + k ∈ settled.store.confirmed ↔ k < n := by
    rw [hsettled, houtlook]
    exact mem_append_range'_iff hrest.fresh
  rw [hstarted, map_resultBy_enroll hconfirmed] at hresults
  obtain ⟨hhistory, hphase⟩ := finishEach_of_fate (fate_enroll hconfirmed) (goingOn labels)
  rw [hstarted] at hfront hplaces
  rw [houtlook] at hcome
  have hpassage : settled.passage = (machine.passage : Valid φ ε → Passage φ κ) := by
    funext valid
    rw [passage, passage]
    exact congrArg _ hlaunched.clock
  have hbefore : settled.history = machine.history := hlaunched.history
  have hlast : settled.phase.value = lastPhase machine.phase.value (validOf judged) :=
    hlaunched.phase
  refine ⟨(Outlook.mk.inj hcome).1, hnodup, fun place => ?_, ?_, (Outlook.mk.inj hcome).2.2.1, ?_,
    ?_, hresults⟩
  · rw [hplaces, isSome_sendingAt?_enroll]
  · rw [hresults, ← hpassage, ← hbefore, ← hhistory, hfront.history]
  · have hisOpen := (Outlook.mk.inj hcome).2.2.2
    have hle := hendures.le
    rw [← Bool.not_not after.store.isClosed, hisOpen]
    by_cases heq : n = (validOf judged).length
    · simp [heq]
    · have hlt : n < (validOf judged).length := by omega
      simp [heq, hlt]
  · rw [hresults, ← hlast, ← hphase, hfront.phase]

/-! ### Batches at machines at rest -/

/-- What a batch keeps, and how many results it has. -/
theorem keeps_batch? (hrest : machine.store.AtRest) {events : List ε}
    (h : machine.batch? events labels = some (after, results)) :
    after.table = machine.table ∧ after.store.AtRest ∧ results.length = events.length := by
  obtain ⟨htable, hsound, hlength⟩ := sound_bringThrough? h (startAll_spec hrest events).1
  refine ⟨htable.trans (machine.table_startAll events), hsound.atRest ?_, ?_⟩
  · exact (front_of_batch? hrest h).2.2.2
  · rw [hlength, List.length_map, length_startAll]

/-- A batch at a closed machine fails, and changes nothing that can be seen. -/
theorem batch?_of_closed (hclosed : machine.store.isClosed = true) (hrest : machine.store.AtRest)
    {events : List ε} (h : machine.batch? events labels = some (after, results)) :
    Unmoved machine after ∧ after.store.isClosed = true ∧
      ∀ result ∈ results, result.isOk = false := by
  obtain ⟨hunmoved, hstill, hidle, herrors⟩ := startAll_of_closed hclosed hrest events
  obtain ⟨hresults, hfront, hcome, -⟩ := front_of_batch? hrest h
  have hnone (place : Nat) :
      sendingAt? ((machine.startAll events).2.map BatchStage.ofStart) place = none := by
    rw [sendingAt?, List.getElem?_map]
    cases hfirst : (machine.startAll events).2[place]? with
    | none => rfl
    | some first =>
      obtain ⟨error, rfl⟩ := herrors first (List.mem_of_getElem? hfirst)
      rfl
  have hsettle : (machine.startAll events).1.settle = (machine.startAll events).1 := by
    rw [settle, Store.settle_of_held_eq_nil hidle.held]
  rw [List.filterMap_eq_nil_iff.mpr fun place _ => hnone place, hsettle] at hfront
  rw [Store.outlook_of_held_eq_nil hidle.held] at hcome
  refine ⟨⟨?_, (Outlook.mk.inj hcome).1.trans hunmoved.payload, ?_⟩, ?_, fun result hmem => ?_⟩
  · exact (congrArg Published.value hfront.phase).symm.trans hunmoved.phase
  · exact hfront.history.symm.trans hunmoved.history
  · exact (Bool.not_inj (Outlook.mk.inj hcome).2.2.2).trans hstill
  · rw [hresults, List.map_map] at hmem
    obtain ⟨first, hfirst, rfl⟩ := List.mem_map.mp hmem
    obtain ⟨error, rfl⟩ := herrors first hfirst
    rfl

/-- To let the store settle first, and the senders then go on in the order of the batch, is one
course of a batch. -/
theorem exists_batch? (hrest : machine.store.AtRest) (events : List ε) :
    ∃ labels, (goingOn labels).Pairwise (· < ·) ∧
      machine.batch? events labels = some (machine.sendAll events) :=
  exists_bringThrough?_finishAll (startAll_spec hrest events).1 (machine.startAll events).2

/-- A batch at a closed machine changes nothing that can be seen. -/
theorem sendAll_of_closed (hclosed : machine.store.isClosed = true) (hrest : machine.store.AtRest)
    (events : List ε) :
    Unmoved machine (machine.sendAll events).1 ∧
      (machine.sendAll events).1.store.isClosed = true := by
  obtain ⟨labels, -, hcourse⟩ := exists_batch? hrest events
  obtain ⟨hunmoved, hstill, -⟩ := batch?_of_closed hclosed hrest hcourse
  exact ⟨hunmoved, hstill⟩

theorem atRest_round (hrest : machine.store.AtRest) (round : Round ε) :
    (machine.round round).1.store.AtRest := by
  cases round with
  | one event => exact atRest_send hrest event
  | batch events =>
    obtain ⟨labels, -, hcourse⟩ := exists_batch? hrest events
    exact (keeps_batch? hrest hcourse).2.1

theorem atRest_rounds (hrest : machine.store.AtRest) (past : List (Round ε)) :
    (machine.rounds past).store.AtRest := by
  induction past generalizing machine with
  | nil => exact hrest
  | cons round past ih => exact ih (atRest_round hrest round)

end Machine

end RoundTable
