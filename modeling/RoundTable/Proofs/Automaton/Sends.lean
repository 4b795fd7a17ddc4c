import RoundTable.Proofs.Automaton.StoreAtRest

/-!
# What becomes of a send

A send to a machine whose store is at rest ends in one of three ways. Validation fails, and nothing
happens; or the event is valid but the store loses it, and everything visible is as before; or the
event passes, and the phase, the payload and the history move on together. In each case the store
is at rest again.

## Main definitions

* `Machine.launched`, `Machine.sending`: a send that has been offered to the store
* `Machine.Unmoved`, `Machine.Passed`: what is visible of a send that fails, and of one that
  succeeds
* `Machine.SameModel`: what no send changes

## Main results

* `Machine.send_of_validate_error`, `Machine.send_of_loses`, `Machine.send_of_keeps`: the three ways
* `Machine.atRest_send`, `Machine.sameModel_send`: what every send keeps
-/

namespace RoundTable

namespace Store

variable {ε σ : Type}

theorem offer_snd (store : Store ε σ) (event : ε) : (store.offer event).2 = store.issued := by
  rw [offer]
  dsimp only
  split <;> rfl

/-- An offer to a store at rest ends where the store would settle at once. -/
theorem AtRest.eq_settle_of_moves {store last : Store ε σ} (hrest : store.AtRest) {event : ε}
    {moves : List StoreMove} {result : Except StoreError Unit}
    (hmoves : moves.foldlM Store.move? (store.offer event).1 = some last)
    (hanswer : last.commitResult? (store.offer event).2 = some result) :
    last = (store.offer event).1.settle := by
  obtain ⟨hserves, hsettle⟩ := (hrest.serves_offer event).foldlM_move? hmoves
  rw [Store.offer_snd] at hanswer
  rw [← hsettle, Store.settle_of_held_eq_nil (hserves.held_eq_nil hanswer)]

theorem AtRest.isClosed_offer {store : Store ε σ} (hrest : store.AtRest) (event : ε) :
    (store.offer event).1.isClosed = store.isClosed := by
  cases hclosed : store.isClosed with
  | true =>
    rw [offer_of_closed hclosed]
    exact hclosed
  | false =>
    rw [hrest.offer_eq hclosed]
    exact hclosed

/-- Whether a store at rest loses an event: its loop is over, or its inspector breaks down. -/
def loses (store : Store ε σ) (event : ε) : Bool :=
  store.isClosed || store.breaks (store.reduce store.payload.value event)

/-- A store that loses an event has published and confirmed nothing, and its loop is over. -/
theorem AtRest.settle_offer_of_loses {store : Store ε σ} (hrest : store.AtRest) {event : ε}
    (hloses : store.loses event = true) :
    ∃ entered shown, (store.offer event).1.settle =
      { store with stage := .ended, issued := store.issued + 1, entered, shown } := by
  cases hclosed : store.isClosed with
  | true =>
    refine ⟨store.entered, store.shown, ?_⟩
    have hstage : store.stage = .ended := by
      cases hs : store.stage <;> simp_all [isClosed]
    rw [hrest.settle_offer_of_closed hclosed, offer_of_closed hclosed, ← hstage]
  | false =>
    have hbreaks : store.breaks (store.reduce store.payload.value event) = true := by
      simpa [loses, hclosed] using hloses
    exact ⟨_, _, hrest.settle_offer_of_breaks hclosed hbreaks⟩

/-- A store that does not lose an event has published and confirmed it. -/
theorem AtRest.settle_offer_of_keeps {store : Store ε σ} (hrest : store.AtRest) {event : ε}
    (hkeeps : store.loses event = false) :
    ∃ entered shown, (store.offer event).1.settle =
      { store with
        payload := store.payload.publish (store.reduce store.payload.value event)
        confirmed := store.confirmed ++ [store.issued]
        issued := store.issued + 1
        entered
        shown } := by
  obtain ⟨hopen, hbreaks⟩ : store.isClosed = false ∧
      store.breaks (store.reduce store.payload.value event) = false := by
    simpa [loses] using hkeeps
  exact ⟨_, _, hrest.settle_offer hopen hbreaks⟩

/-- Whatever becomes of an offer, the store is at rest afterwards. -/
theorem AtRest.settled {store : Store ε σ} (hrest : store.AtRest) (event : ε) :
    (store.offer event).1.settle.AtRest := by
  obtain ⟨hstage, hslot, hwaiting⟩ := held_eq_nil_iff.mp hrest.held
  cases hloses : store.loses event with
  | true =>
    obtain ⟨entered, shown, hsettle⟩ := hrest.settle_offer_of_loses hloses
    rw [hsettle]
    exact ⟨held_eq_nil_iff.mpr ⟨rfl, hslot, hwaiting⟩,
      fun ticket h => Nat.lt_succ_of_lt (hrest.fresh ticket h)⟩
  | false =>
    obtain ⟨entered, shown, hsettle⟩ := hrest.settle_offer_of_keeps hloses
    rw [hsettle]
    refine ⟨hrest.held, fun ticket h => ?_⟩
    rcases List.mem_append.mp h with h | h
    · exact Nat.lt_succ_of_lt (hrest.fresh ticket h)
    · exact List.mem_singleton.mp h ▸ Nat.lt_succ_self _

end Store

namespace Machine

variable {φ κ ε σ : Type}

/-- The machine works by the same edges, reducer, inspector and clock. -/
structure SameModel (before after : Machine φ κ ε σ) : Prop where
  table : after.table = before.table
  reduce : after.store.reduce = before.store.reduce
  breaks : after.store.breaks = before.store.breaks
  clock : after.clock = before.clock

/-- Whoever goes back changes nothing but the phase. -/
theorem retreat_eq [DecidableEq φ] (machine : Machine φ κ ε σ) (sending : Sending φ κ) :
    ∃ phase, machine.retreat sending = { machine with phase } ∧
      phase.value =
        if machine.phase.value = sending.target then sending.source else machine.phase.value := by
  rw [retreat]
  split
  · exact ⟨_, rfl, rfl⟩
  · exact ⟨_, rfl, rfl⟩

variable [DecidableEq φ] [DecidableEq κ] [Tagged ε κ]

/-! ### The two halves of a send -/

/-- The machine once a valid event has been offered to the store. -/
def launched (machine : Machine φ κ ε σ) (event : ε) (target : φ) : Machine φ κ ε σ :=
  { (machine.note event).enter target with store := (machine.store.offer event).1 }

/-- The send under way of a valid event. -/
def sending (machine : Machine φ κ ε σ) (event : ε) (target : φ) : Sending φ κ where
  source := machine.phase.value
  target
  tag := tag event
  ticket := machine.store.issued

theorem send_of_validate_error {machine : Machine φ κ ε σ} {event : ε}
    {error : TransitionError φ ε} (h : machine.validate event = .error error) :
    machine.send event = (machine.note event, .error error) := by
  simp [send, start, h, note]

theorem start_of_validate_ok {machine : Machine φ κ ε σ} {event : ε} {target : φ}
    (h : machine.validate event = .ok target) :
    machine.start event =
      if (machine.launched event target).store.isClosed then
        ((machine.launched event target).retreat (machine.sending event target),
          .error (.store .closed))
      else (machine.launched event target, .ok (machine.sending event target)) := by
  simp only [start, h, launched, sending, note, enter, ← Store.offer_snd machine.store event]
  rfl

/-- A send of a valid event is what the store makes of the offer. That a closed store fails a send
at its start makes no difference. -/
theorem send_of_validate_ok {machine : Machine φ κ ε σ} (hrest : machine.store.AtRest) {event : ε}
    {target : φ} (h : machine.validate event = .ok target) :
    machine.send event =
      (machine.launched event target).settle.finish (machine.sending event target) := by
  rw [send, start_of_validate_ok h]
  cases hclosed : (machine.launched event target).store.isClosed with
  | true =>
    have hstore : machine.store.isClosed = true :=
      (hrest.isClosed_offer event).symm.trans hclosed
    have hsettle : (machine.launched event target).settle = machine.launched event target := by
      change { (machine.note event).enter target with
        store := (machine.store.offer event).1.settle } = _
      rw [hrest.settle_offer_of_closed hstore]
      rfl
    have hlost : (machine.sending event target).ticket ∉
        (machine.launched event target).store.confirmed := by
      change machine.store.issued ∉ (machine.store.offer event).1.confirmed
      rw [Store.offer_of_closed hstore]
      exact fun hmem => Nat.lt_irrefl _ (hrest.fresh _ hmem)
    -- nothing was confirmed, so to finish is to go back, as the start has done already
    rw [hsettle, finish, if_neg hlost, if_pos rfl]
  | false => rfl

/-! ### What a send shows -/

/-- Nothing visible has changed. -/
structure Unmoved (before after : Machine φ κ ε σ) : Prop where
  phase : after.phase.value = before.phase.value
  payload : after.payload = before.payload
  history : after.history = before.history

/-- An event has taken the machine to a phase, and one passage was recorded. -/
structure Passed (before : Machine φ κ ε σ) (event : ε) (target : φ) (after : Machine φ κ ε σ) :
    Prop where
  phase : after.phase.value = target
  payload : after.payload = before.store.reduce before.payload event
  history : after.history =
    before.history.push ⟨before.phase.value, target, tag event, before.clock⟩

theorem unmoved_note (machine : Machine φ κ ε σ) (event : ε) :
    Unmoved machine (machine.note event) := ⟨rfl, rfl, rfl⟩

variable {machine : Machine φ κ ε σ} {event : ε} {target : φ}

theorem validate_ne_store (machine : Machine φ κ ε σ) (event : ε) (error : StoreError) :
    machine.validate event ≠ .error (.store error) := by
  rw [validate]
  split
  · simp
  · split <;> simp

/-- **A lost event.** The phase is published and taken back; phase, payload and history are as they
were before, and the loop of the store is over. -/
theorem send_of_loses (hrest : machine.store.AtRest) (h : machine.validate event = .ok target)
    (hloses : machine.store.loses event = true) :
    (machine.send event).2 = .error (.store .closed) ∧ Unmoved machine (machine.send event).1 ∧
      SameModel machine (machine.send event).1 ∧
      (machine.send event).1.store = (machine.store.offer event).1.settle ∧
      (machine.send event).1.store.isClosed = true := by
  obtain ⟨entered, shown, hsettle⟩ := hrest.settle_offer_of_loses hloses
  have hmachine : (machine.launched event target).settle =
      { (machine.note event).enter target with
        store := (machine.store.offer event).1.settle } := rfl
  have hlost : (machine.sending event target).ticket ∉
      (machine.launched event target).settle.store.confirmed := by
    rw [hmachine, hsettle]
    exact fun hmem => Nat.lt_irrefl _ (hrest.fresh _ hmem)
  have hback : (machine.launched event target).settle.retreat (machine.sending event target) =
      (machine.launched event target).settle.enter machine.phase.value := if_pos rfl
  rw [send_of_validate_ok hrest h, finish, if_neg hlost, hback, hmachine, hsettle]
  exact ⟨rfl, ⟨rfl, rfl, rfl⟩, ⟨rfl, rfl, rfl, rfl⟩, rfl, rfl⟩

/-- **An event that passes.** Phase, payload and history move on together. -/
theorem send_of_keeps (hrest : machine.store.AtRest) (h : machine.validate event = .ok target)
    (hkeeps : machine.store.loses event = false) :
    (machine.send event).2 = .ok () ∧ Passed machine event target (machine.send event).1 ∧
      SameModel machine (machine.send event).1 ∧
      (machine.send event).1.store = (machine.store.offer event).1.settle ∧
      (machine.send event).1.store.isClosed = false := by
  obtain ⟨entered, shown, hsettle⟩ := hrest.settle_offer_of_keeps hkeeps
  have hmachine : (machine.launched event target).settle =
      { (machine.note event).enter target with
        store := (machine.store.offer event).1.settle } := rfl
  have hkept : (machine.sending event target).ticket ∈
      (machine.launched event target).settle.store.confirmed := by
    rw [hmachine, hsettle]
    simp [sending]
  have hopen : machine.store.isClosed = false := by
    rw [Store.loses, Bool.or_eq_false_iff] at hkeeps
    exact hkeeps.1
  rw [send_of_validate_ok hrest h, finish, if_pos hkept, hmachine, hsettle]
  exact ⟨rfl, ⟨rfl, rfl, rfl⟩, ⟨rfl, rfl, rfl, rfl⟩, rfl, hopen⟩

/-- Whatever becomes of an event, the store is at rest afterwards. -/
theorem atRest_send (hrest : machine.store.AtRest) (event : ε) :
    (machine.send event).1.store.AtRest := by
  cases h : machine.validate event with
  | error error =>
    rw [send_of_validate_error h]
    exact hrest
  | ok target =>
    cases hloses : machine.store.loses event with
    | true =>
      rw [(send_of_loses hrest h hloses).2.2.2.1]
      exact hrest.settled event
    | false =>
      rw [(send_of_keeps hrest h hloses).2.2.2.1]
      exact hrest.settled event

theorem sameModel_send (hrest : machine.store.AtRest) (event : ε) :
    SameModel machine (machine.send event).1 := by
  cases h : machine.validate event with
  | error error =>
    rw [send_of_validate_error h]
    exact ⟨rfl, rfl, rfl, rfl⟩
  | ok target =>
    cases hloses : machine.store.loses event with
    | true => exact (send_of_loses hrest h hloses).2.2.1
    | false => exact (send_of_keeps hrest h hloses).2.2.1

/-- **Atomicity.** A send that fails leaves nothing visible behind, and never fails for want of room
in the queue. -/
theorem unmoved_send_of_error (hrest : machine.store.AtRest) {error : TransitionError φ ε}
    (herror : (machine.send event).2 = .error error) :
    Unmoved machine (machine.send event).1 ∧ error ≠ .store .rejected := by
  cases h : machine.validate event with
  | error refusal =>
    rw [send_of_validate_error h] at herror ⊢
    refine ⟨unmoved_note machine event, ?_⟩
    rintro rfl
    cases herror
    exact absurd h (validate_ne_store machine event _)
  | ok target =>
    cases hloses : machine.store.loses event with
    | true =>
      obtain ⟨hresult, hunmoved, -⟩ := send_of_loses hrest h hloses
      rw [hresult] at herror
      cases herror
      exact ⟨hunmoved, by simp⟩
    | false =>
      rw [(send_of_keeps hrest h hloses).1] at herror
      cases herror

end Machine

end RoundTable
