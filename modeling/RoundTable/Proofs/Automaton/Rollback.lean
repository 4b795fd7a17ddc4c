import RoundTable.Proofs.Automaton.Prefixes

/-!
# Where lost sends leave the phase

A send publishes the phase that its event leads to before the store has taken the event, and goes
back if the store loses it, unless another phase was published since. For one send this undoes what
it has published. Here the lost sends of a batch go back one after another in the order in which
they started, and each compares the phase with what it has published itself; so the first ones find
the phase of the last one and do nothing, and the last one goes back to a phase that was never
committed.

## Main definitions

* `Machine.settledPhase`: the phase that the history leads to

## Main results

* `unwind_singleton`: a single lost send undoes what it has published
* `Machine.settled_of_rounds`: as long as nothing is lost, the phase is settled
* `Machine.phase_after_round`: where every round leaves the phase
* `Machine.phase_unsettled`: a batch that loses two sends leaves a phase that is not settled
-/

namespace RoundTable

variable {φ κ ε σ : Type}

/-! ### Chains of phases -/

theorem lastPhase_concat (phase : φ) (valid : List (Valid φ ε)) (last : Valid φ ε) :
    lastPhase phase (valid ++ [last]) = last.target := by
  simp [lastPhase]

/-- A single lost send undoes what it has published. -/
theorem unwind_singleton [DecidableEq φ] (lost : Valid φ ε) :
    unwind lost.target [lost] = lost.source :=
  if_pos rfl

namespace Machine

variable {machine before after : Machine φ κ ε σ}

/-- The phase that the last passage led to, or the given one if there was none. -/
def settledPhase (initial : φ) (machine : Machine φ κ ε σ) : φ :=
  (machine.history.passages.getLast?.map Passage.target).getD initial

theorem settledPhase_congr (initial : φ) (h : after.history = before.history) :
    after.settledPhase initial = before.settledPhase initial := by
  rw [settledPhase, settledPhase, h]

theorem settledPhase_of_passages [Tagged ε κ] (initial : φ) {passed : List (Valid φ ε)}
    (h : after.history.passages = before.history.passages ++ passed.map before.passage) :
    after.settledPhase initial = lastPhase (before.settledPhase initial) passed := by
  rw [settledPhase, h]
  obtain rfl | ⟨earlier, last, rfl⟩ := List.eq_nil_or_concat passed
  · simp [settledPhase, lastPhase]
  · rw [List.concat_eq_append, lastPhase_concat, List.map_append, List.map_singleton,
      ← List.append_assoc]
    simp [passage]

variable [DecidableEq φ] [DecidableEq κ] [Tagged ε κ]

/-- Valid events are judged in the phase to which those before them lead. -/
theorem source_of_mem_validOf {phase : φ} {events : List ε} {earlier later : List (Valid φ ε)}
    {valid : Valid φ ε}
    (h : validOf (machine.judged phase events) = earlier ++ valid :: later) :
    valid.source = lastPhase phase earlier := by
  induction events generalizing phase earlier with
  | nil => simp [judged, validOf] at h
  | cons event events ih =>
    rw [judged] at h
    split at h
    case h_1 error _ =>
      have h : validOf (machine.judged phase events) = earlier ++ valid :: later := h
      exact ih h
    case h_2 target _ =>
      have h : ⟨phase, target, event⟩ :: validOf (machine.judged target events) =
          earlier ++ valid :: later := h
      cases earlier with
      | nil =>
        cases h
        rfl
      | cons first earlier =>
        rw [List.cons_append, List.cons.injEq] at h
        obtain ⟨rfl, hrest⟩ := h
        rw [lastPhase_cons]
        exact ih hrest

/-! ### Single sends -/

theorem settled_send (hrest : machine.store.AtRest) {initial : φ}
    (hsettled : machine.phase.value = machine.settledPhase initial) (event : ε) :
    (machine.send event).1.phase.value = (machine.send event).1.settledPhase initial := by
  have hunmoved (h : Unmoved machine (machine.send event).1) :
      (machine.send event).1.phase.value = (machine.send event).1.settledPhase initial := by
    rw [h.phase, settledPhase_congr initial h.history, hsettled]
  cases hvalid : machine.validate event with
  | error error =>
    refine hunmoved ?_
    rw [send_of_validate_error hvalid]
    exact unmoved_note machine event
  | ok target =>
    cases hloses : machine.store.loses event with
    | true => exact hunmoved (send_of_loses hrest hvalid hloses).2.1
    | false =>
      have hpassed := (send_of_keeps hrest hvalid hloses).2.1
      rw [hpassed.phase, settledPhase, hpassed.history]
      simp [History.push]

/-! ### Batches -/

/-- What the phase and the history come to in a batch at an open machine. -/
theorem phase_sendAll (hrest : machine.store.AtRest) (hopen : machine.store.isClosed = false)
    {initial : φ} (hsettled : machine.phase.value = machine.settledPhase initial)
    (events : List ε) :
    let valid := validOf (machine.judged machine.phase.value events)
    let after := (machine.sendAll events).1
    ∃ n, machine.Endures valid n ∧
      after.store.isClosed = decide (n < valid.length) ∧
      after.settledPhase initial = lastPhase machine.phase.value (valid.take n) ∧
      after.phase.value = unwind (lastPhase machine.phase.value valid) (valid.drop n) ∧
      (valid.length ≤ n + 1 → after.phase.value = after.settledPhase initial) := by
  intro valid after
  obtain ⟨n, hendures, hcommitted⟩ := exists_committed hrest hopen events
  obtain ⟨labels, hsorted, hlabels⟩ := exists_batch? hrest events
  have h := hcommitted labels _ _ hlabels
  have hphase :
      after.phase.value = unwind (lastPhase machine.phase.value valid) (valid.drop n) := by
    rw [← h.eq_drop hsorted]
    exact h.phase
  have hhistory : after.settledPhase initial = lastPhase machine.phase.value (valid.take n) := by
    rw [hsettled, ← h.eq_take hsorted]
    exact settledPhase_of_passages initial h.history
  refine ⟨n, hendures, h.isClosed, hhistory, hphase, fun hone => ?_⟩
  rw [hphase, hhistory]
  obtain heq | hlt := Nat.eq_or_lt_of_le hendures.le
  · have hall : n = valid.length := heq
    rw [hall, List.drop_length, List.take_length]
    rfl
  · have hlt : n < valid.length := hlt
    obtain ⟨last, hdrop⟩ : ∃ last, valid.drop n = [last] :=
      ⟨valid[n], by rw [List.drop_eq_getElem_cons hlt, List.drop_eq_nil_of_le hone]⟩
    have hsplit : valid.take n ++ [last] = valid := by rw [← hdrop, List.take_append_drop]
    have htarget : lastPhase machine.phase.value valid = last.target := by
      rw [← hsplit, lastPhase_concat]
    have hsource : last.source = lastPhase machine.phase.value (valid.take n) :=
      source_of_mem_validOf hsplit.symm
    rw [hdrop, htarget, unwind_singleton, hsource]

/-! ### Rounds -/

/-- Once the loop is over, no send changes anything that can be seen. -/
theorem send_of_closed (hrest : machine.store.AtRest) (hclosed : machine.store.isClosed = true)
    (event : ε) :
    Unmoved machine (machine.send event).1 ∧ (machine.send event).1.store.isClosed = true := by
  cases hvalid : machine.validate event with
  | error error =>
    rw [send_of_validate_error hvalid]
    exact ⟨unmoved_note machine event, hclosed⟩
  | ok target =>
    have hloses : machine.store.loses event = true := by rw [Store.loses, hclosed, Bool.true_or]
    obtain ⟨-, hunmoved, -, -, hstill⟩ := send_of_loses hrest hvalid hloses
    exact ⟨hunmoved, hstill⟩

theorem round_of_closed (hrest : machine.store.AtRest) (hclosed : machine.store.isClosed = true)
    (round : Round ε) :
    Unmoved machine (machine.round round).1 ∧ (machine.round round).1.store.isClosed = true := by
  cases round with
  | one event => exact send_of_closed hrest hclosed event
  | batch events => exact sendAll_of_closed hclosed hrest events

/-- A round after which the loop is not over has lost nothing. -/
theorem settled_round (hrest : machine.store.AtRest) {initial : φ}
    (hsettled : machine.store.isClosed = false → machine.phase.value = machine.settledPhase initial)
    (round : Round ε) (hopen : (machine.round round).1.store.isClosed = false) :
    (machine.round round).1.phase.value = (machine.round round).1.settledPhase initial := by
  have hbefore : machine.store.isClosed = false := by
    cases hclosed : machine.store.isClosed with
    | false => rfl
    | true => exact (round_of_closed hrest hclosed round).2.symm.trans hopen
  cases round with
  | one event => exact settled_send hrest (hsettled hbefore) event
  | batch events =>
    obtain ⟨n, -, hclosed, -, -, hone⟩ := phase_sendAll hrest hbefore (hsettled hbefore) events
    refine hone ?_
    have hnot := of_decide_eq_false (hclosed.symm.trans hopen)
    exact Nat.le_succ_of_le (Nat.le_of_not_lt hnot)

/-- As long as the loop is not over, the phase is settled. -/
theorem settled_of_rounds (hrest : machine.store.AtRest) {initial : φ}
    (hsettled : machine.store.isClosed = false → machine.phase.value = machine.settledPhase initial)
    (past : List (Round ε)) (hopen : (machine.rounds past).store.isClosed = false) :
    (machine.rounds past).phase.value = (machine.rounds past).settledPhase initial := by
  induction past generalizing machine with
  | nil => exact hsettled hopen
  | cons round past ih =>
    exact ih (atRest_round hrest round) (settled_round hrest hsettled round) hopen

/-- **Where a round leaves the phase.** Let a machine be reached by whatever rounds of sends, where
the senders of a batch go on in the order of the batch once the store has settled.

* As long as the loop is not over, the phase is the one that the history leads to; and once it is
  over, nothing that can be seen changes any more.
* A single send leaves a settled phase, whether its event passes or not.
* If a batch loses valid events, its sends go back in order, each if the phase is the one that it
  has published. If it loses one event only, this leaves a settled phase. -/
theorem phase_after_round {table : EdgeTable φ κ ε σ} {initial : φ} {payload : σ}
    {reduce : σ → ε → σ} {breaks : σ → Bool} {past : List (Round ε)}
    (hreached : (opened table initial payload reduce breaks).rounds past = machine) :
    (machine.store.isClosed = true → ∀ round, Unmoved machine (machine.round round).1) ∧
    (machine.store.isClosed = false →
      machine.phase.value = machine.settledPhase initial ∧
      (∀ event, (machine.send event).1.phase.value =
        (machine.send event).1.settledPhase initial) ∧
      ∀ events,
        let valid := validOf (machine.judged machine.phase.value events)
        let after := (machine.sendAll events).1
        ∃ n, machine.Endures valid n ∧
          after.store.isClosed = decide (n < valid.length) ∧
          after.settledPhase initial = lastPhase machine.phase.value (valid.take n) ∧
          after.phase.value = unwind (lastPhase machine.phase.value valid) (valid.drop n) ∧
          (valid.length ≤ n + 1 → after.phase.value = after.settledPhase initial)) := by
  have hopened := Store.atRest_opened reduce breaks payload
  have hrest : machine.store.AtRest := hreached ▸ atRest_rounds hopened past
  refine ⟨fun hclosed round => (round_of_closed hrest hclosed round).1, fun hopen => ?_⟩
  have hsettled : machine.phase.value = machine.settledPhase initial := by
    rw [← hreached] at hopen ⊢
    exact settled_of_rounds hopened (fun _ => rfl) past hopen
  exact ⟨hsettled, settled_send hrest hsettled, phase_sendAll hrest hopen hsettled⟩

/-- The busy lamp loses the second of two valid pulses. -/
theorem phase_after_round_busyLamp :
    busyLamp.store.isClosed = false ∧
      (busyLamp.sendAll [⟨.advance, 1⟩, ⟨.back, 11⟩]).1.phase.value =
        (busyLamp.sendAll [⟨.advance, 1⟩, ⟨.back, 11⟩]).1.settledPhase .red ∧
      (busyLamp.sendAll [⟨.advance, 1⟩, ⟨.back, 11⟩]).1.phase.value = .green := by
  have hopen : busyLamp.store.isClosed = false := by decide +kernel
  obtain ⟨-, -, hbatch⟩ := (phase_after_round rfl).2 hopen
  obtain ⟨n, hendures, -, -, hphase, hone⟩ := hbatch [⟨.advance, 1⟩, ⟨.back, 11⟩]
  have hpasses : busyLamp.Endures (validOf (busyLamp.judged busyLamp.phase.value
      [⟨.advance, 1⟩, ⟨.back, 11⟩])) 1 :=
    ⟨by decide +kernel, by decide +kernel, fun _ => by decide +kernel⟩
  cases hendures.unique hpasses
  exact ⟨hopen, hone (by decide +kernel), hphase.trans (by decide +kernel)⟩

/-- **A phase that was never committed.** The inspector breaks down on the first of two pulses that
are sent at once. The first send finds amber, which it has not published, and does nothing; the
second one goes back to green. -/
theorem phase_unsettled :
    ¬∀ (table : LampTable) (initial : Lamp) (payload : Int64) (reduce : Int64 → Pulse → Int64)
      (breaks : Int64 → Bool) (past : List (Round Pulse)),
      ((opened table initial payload reduce breaks).rounds past).phase.value =
        ((opened table initial payload reduce breaks).rounds past).settledPhase initial := by
  intro h
  have hgreen := h relayLamp .red 0 (fun count pulse => Folding.apply count pulse.weight .add)
    (fun count => 10 < count) [.batch [⟨.advance, 11⟩, ⟨.tick, 0⟩]]
  revert hgreen
  decide +kernel

end Machine

end RoundTable
