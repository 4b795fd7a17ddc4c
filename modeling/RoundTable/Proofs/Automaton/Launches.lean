import RoundTable.Automaton.Batch
import RoundTable.Proofs.Automaton.Outlook
import RoundTable.Proofs.Automaton.Sends

/-!
# The start of a batch

While the sends of a batch start, nothing is folded: each event is judged with the payload from
before the batch, in the phase that the valid events before it have published, and what is offered
to the store are the valid events in order. So the outlook of the store is settled before its loop
takes its first step.

## Main definitions

* `enroll`, `offersFrom`: the sends under way and the offers of a batch, by ticket
* `Machine.Launched`: a machine at which a batch has been started

## Main results

* `Machine.launched_startAll`: what the start of a batch does to an open machine
* `Machine.Launched.outlook_eq`: what the store has in prospect from then on
* `Machine.startAll_of_closed`: at a closed machine nothing happens
-/

namespace RoundTable

variable {φ κ ε σ : Type}

/-! ### Tickets -/

/-- The offers of valid events, with tickets from the given one on. -/
def offersFrom : Nat → List (Valid φ ε) → List (Offer ε)
  | _, [] => []
  | first, valid :: rest => ⟨first, valid.event⟩ :: offersFrom (first + 1) rest

/-- The sends under way of a batch, with tickets from the given one on. -/
def enroll [Tagged ε κ] : Nat → List (Except (TransitionError φ ε) (Valid φ ε)) →
    List (Except (TransitionError φ ε) (Sending φ κ))
  | _, [] => []
  | first, .error error :: rest => .error error :: enroll first rest
  | first, .ok valid :: rest =>
    .ok ⟨valid.source, valid.target, tag valid.event, first⟩ :: enroll (first + 1) rest

theorem map_event_offersFrom (first : Nat) (valid : List (Valid φ ε)) :
    (offersFrom first valid).map Offer.event = valid.map Valid.event := by
  induction valid generalizing first with
  | nil => rfl
  | cons v rest ih => rw [offersFrom, List.map_cons, List.map_cons, ih]

theorem map_ticket_offersFrom (first : Nat) (valid : List (Valid φ ε)) :
    (offersFrom first valid).map Offer.ticket = List.range' first valid.length := by
  induction valid generalizing first with
  | nil => rfl
  | cons v rest ih => rw [offersFrom, List.map_cons, ih, List.length_cons, List.range'_succ]

theorem length_offersFrom (first : Nat) (valid : List (Valid φ ε)) :
    (offersFrom first valid).length = valid.length := by
  rw [← List.length_map (f := Offer.event), map_event_offersFrom, List.length_map]

theorem take_offersFrom (first n : Nat) (valid : List (Valid φ ε)) :
    (offersFrom first valid).take n = offersFrom first (valid.take n) := by
  induction valid generalizing first n with
  | nil => simp [offersFrom]
  | cons v rest ih =>
    cases n with
    | zero => rfl
    | succ n => rw [offersFrom, List.take_succ_cons, ih, List.take_succ_cons, offersFrom]

/-- Tickets that were given out later are none of the earlier ones. -/
theorem mem_append_range'_iff {confirmed : List Nat} {first n k : Nat}
    (hfresh : ∀ ticket ∈ confirmed, ticket < first) :
    first + k ∈ confirmed ++ List.range' first n ↔ k < n := by
  rw [List.mem_append, List.mem_range'_1]
  constructor
  · rintro (hmem | hmem)
    · exact absurd (hfresh _ hmem) (by omega)
    · omega
  · exact fun hlt => .inr (by omega)

/-- The tickets of sends under way. -/
def ticketsOf (started : List (Except (TransitionError φ ε) (Sending φ κ))) : List Nat :=
  (started.filterMap Except.toOption).map Sending.ticket

theorem ticketsOf_enroll [Tagged ε κ] (first : Nat)
    (judged : List (Except (TransitionError φ ε) (Valid φ ε))) :
    ticketsOf (enroll first judged : List (Except _ (Sending φ κ))) =
      (offersFrom first (validOf judged)).map Offer.ticket := by
  induction judged generalizing first with
  | nil => rfl
  | cons judged rest ih =>
    cases judged with
    | error error => exact ih first
    | ok valid => exact congrArg (first :: ·) (ih (first + 1))

theorem lastPhase_cons (phase : φ) (valid : Valid φ ε) (rest : List (Valid φ ε)) :
    lastPhase phase (valid :: rest) = lastPhase valid.target rest := by
  cases rest with
  | nil => rfl
  | cons other rest =>
    obtain ⟨last, hlast⟩ : ∃ last, (other :: rest).getLast? = some last :=
      Option.isSome_iff_exists.mp (by simp)
    simp [lastPhase, hlast]

namespace Machine

variable {machine before after : Machine φ κ ε σ}

/-! ### Batches that have been started -/

/-- What the start of a batch with the given valid events does to an open machine. -/
structure Launched (before : Machine φ κ ε σ) (valid : List (Valid φ ε))
    (after : Machine φ κ ε σ) : Prop where
  history : after.history = before.history
  clock : after.clock = before.clock
  phase : after.phase.value = lastPhase before.phase.value valid
  isOpen : after.store.isClosed = false
  sound : after.store.Sound
  held : after.store.held = before.store.held ++ offersFrom before.store.issued valid
  outlook : after.store.outlook = (offersFrom before.store.issued valid).foldl
    (Outlook.deal before.store.reduce before.store.breaks) before.store.outlook

/-- What an open machine at rest has in prospect once a batch has been started: as many of the valid
events pass as the inspector endures. -/
theorem Launched.outlook_eq (hrest : before.store.AtRest) (hopen : before.store.isClosed = false)
    {valid : List (Valid φ ε)} (h : Launched before valid after) :
    ∃ n, before.Endures valid n ∧ after.store.outlook =
      { payload := before.payloadAfter (valid.take n)
        confirmed := before.store.confirmed ++ List.range' before.store.issued n
        shown := before.store.shown ++ (List.range (min (n + 1) valid.length)).map fun k =>
          before.payloadAfter (valid.take (k + 1))
        isOpen := decide (n = valid.length) } := by
  have hbefore := Store.outlook_of_held_eq_nil hrest.held
  have hpayload : before.store.outlook.payload = before.payload := by
    rw [hbefore]
    rfl
  have hstill : before.store.outlook.isOpen = true := by
    rw [hbefore, hopen]
    rfl
  have hsnapshot (k : Nat) : Outlook.snapshot before.store.reduce before.store.outlook.payload
      (offersFrom before.store.issued valid) k = before.payloadAfter (valid.take k) := by
    rw [Outlook.snapshot, payloadAfter, hpayload, take_offersFrom, map_event_offersFrom]
  obtain ⟨n, hle, hendures, hbreaks, heq⟩ := Outlook.exists_foldl_deal before.store.reduce
    before.store.breaks hstill (offersFrom before.store.issued valid)
  simp only [hsnapshot, length_offersFrom] at hle hendures hbreaks heq
  refine ⟨n, ⟨hle, hendures, hbreaks⟩, ?_⟩
  have htickets : ((offersFrom before.store.issued valid).take n).map Offer.ticket =
      List.range' before.store.issued n := by
    rw [take_offersFrom, map_ticket_offersFrom, List.length_take_of_le hle]
  rw [h.outlook, heq, htickets, hbefore]

/-- Only one number of events passes. -/
theorem Endures.unique {valid : List (Valid φ ε)} {m n : Nat} (h : machine.Endures valid m)
    (h' : machine.Endures valid n) : m = n := by
  have hnot {m n : Nat} (h : machine.Endures valid m) (h' : machine.Endures valid n) : ¬m < n := by
    intro hlt
    have hbreaks := h.breaks (Nat.lt_of_lt_of_le hlt h'.le)
    rw [h'.endures m hlt] at hbreaks
    cases hbreaks
  exact Nat.le_antisymm (Nat.le_of_not_lt (hnot h' h)) (Nat.le_of_not_lt (hnot h h'))

variable [DecidableEq φ] [DecidableEq κ] [Tagged ε κ]

/-! ### The start of a batch -/

/-- Validation looks at the edges, the phase and the payload. -/
theorem validate_congr (before after : Machine φ κ ε σ) (htable : after.table = before.table)
    (hphase : after.phase.value = before.phase.value) (hpayload : after.payload = before.payload)
    (event : ε) : after.validate event = before.validate event := by
  simp [validate, judge?, htable, hphase, hpayload]

theorem judged_congr (before after : Machine φ κ ε σ) (htable : after.table = before.table)
    (hpayload : after.payload = before.payload) (phase : φ) (events : List ε) :
    after.judged phase events = before.judged phase events := by
  induction events generalizing phase with
  | nil => rfl
  | cons event events ih =>
    have hvalid : (after.enter phase).validate event = (before.enter phase).validate event :=
      validate_congr (before.enter phase) (after.enter phase) htable rfl hpayload event
    simp only [judged, hvalid, ih]

/-- A send of a valid event at an open machine is under way once it has started. -/
theorem start_of_open (hopen : machine.store.isClosed = false) {event : ε} {target : φ}
    (h : machine.validate event = .ok target) :
    machine.start event = (machine.launched event target, .ok (machine.sending event target)) := by
  obtain ⟨slot, waiting, entered, heq⟩ := Store.offer_eq hopen event
  have hstill : (machine.launched event target).store.isClosed = false := by
    rw [launched, heq]
    exact hopen
  rw [start_of_validate_ok h, hstill, if_neg Bool.false_ne_true]

/-- **The start of a batch.** Nothing is folded; the events are judged one after another, and the
valid ones are offered to the store in order. -/
theorem launched_startAll (hopen : machine.store.isClosed = false) (hsound : machine.store.Sound)
    (events : List ε) :
    (machine.startAll events).2 =
        enroll machine.store.issued (machine.judged machine.phase.value events) ∧
      Launched machine (validOf (machine.judged machine.phase.value events))
        (machine.startAll events).1 := by
  induction events generalizing machine with
  | nil => exact ⟨rfl, rfl, rfl, rfl, hopen, hsound, (List.append_nil _).symm, rfl⟩
  | cons event events ih =>
    have hjudge : (machine.enter machine.phase.value).validate event = machine.validate event :=
      rfl
    rw [startAll]
    cases hvalid : machine.validate event with
    | error error =>
      have hstart : machine.start event = (machine.note event, .error error) := by
        simp [start, hvalid, note]
      obtain ⟨hstarted, hlaunched⟩ := @ih (machine.note event) hopen hsound
      have hjudged : machine.judged machine.phase.value (event :: events) =
          .error error :: (machine.note event).judged machine.phase.value events := by
        rw [judged, hjudge, hvalid]
        have hsame : (machine.note event).judged machine.phase.value events =
            machine.judged machine.phase.value events :=
          judged_congr machine (machine.note event) rfl rfl _ events
        rw [hsame]
      rw [hstart, hjudged]
      exact ⟨congrArg (.error error :: ·) hstarted, hlaunched.history, hlaunched.clock,
        hlaunched.phase, hlaunched.isOpen, hlaunched.sound, hlaunched.held, hlaunched.outlook⟩
    | ok target =>
      obtain ⟨slot, waiting, entered, heq⟩ := Store.offer_eq hopen event
      have hstore : (machine.launched event target).store = (machine.store.offer event).1 := rfl
      have hissued : (machine.store.offer event).1.issued = machine.store.issued + 1 := by rw [heq]
      have hstill : (machine.store.offer event).1.isClosed = false := by
        rw [heq]
        exact hopen
      obtain ⟨hstarted, hlaunched⟩ := @ih (machine.launched event target) hstill
        (hsound.offer hopen event)
      have hjudged : machine.judged machine.phase.value (event :: events) =
          .ok ⟨machine.phase.value, target, event⟩ ::
            (machine.launched event target).judged target events := by
        rw [judged, hjudge, hvalid]
        have hpayload : (machine.launched event target).payload = machine.payload := by
          rw [payload, launched, heq]
          rfl
        have hsame : (machine.launched event target).judged target events =
            machine.judged target events :=
          judged_congr machine (machine.launched event target) rfl hpayload target events
        rw [hsame]
      have hcons : validOf (machine.judged machine.phase.value (event :: events)) =
          ⟨machine.phase.value, target, event⟩ ::
            validOf ((machine.launched event target).judged target events) := by
        rw [hjudged]
        rfl
      have hphase : (machine.launched event target).phase.value = target := rfl
      rw [hphase] at hstarted hlaunched
      rw [start_of_open hopen hvalid]
      refine ⟨?_, hlaunched.history, hlaunched.clock, ?_, hlaunched.isOpen, hlaunched.sound, ?_, ?_⟩
      · rw [hjudged, enroll]
        rw [hstore, hissued] at hstarted
        exact congrArg (_ :: ·) hstarted
      · rw [hcons, lastPhase_cons]
        exact hlaunched.phase
      · rw [hcons, offersFrom, List.append_cons, ← Store.held_offer hopen, ← hissued]
        exact hlaunched.held
      · rw [hcons, offersFrom, List.foldl_cons, ← Store.outlook_offer hopen, ← hissued]
        refine hlaunched.outlook.trans ?_
        rw [hstore, heq]

/-! ### Machines that are closed -/

/-- At a closed machine no send is ever under way: it fails at its start, and nothing that can be
seen changes. -/
theorem startAll_of_closed (hclosed : machine.store.isClosed = true) (hrest : machine.store.AtRest)
    (events : List ε) :
    Unmoved machine (machine.startAll events).1 ∧
      (machine.startAll events).1.store.isClosed = true ∧
      (machine.startAll events).1.store.AtRest ∧
      ∀ judged ∈ (machine.startAll events).2, ∃ error, judged = .error error := by
  induction events generalizing machine with
  | nil => exact ⟨⟨rfl, rfl, rfl⟩, hclosed, hrest, nofun⟩
  | cons event events ih =>
    have hstart : ∃ error, (machine.start event).2 = .error error ∧
        Unmoved machine (machine.start event).1 ∧
        (machine.start event).1.store.isClosed = true ∧ (machine.start event).1.store.AtRest := by
      cases hvalid : machine.validate event with
      | error error =>
        have heq : machine.start event = (machine.note event, .error error) := by
          simp [start, hvalid, note]
        rw [heq]
        exact ⟨error, rfl, unmoved_note machine event, hclosed, hrest⟩
      | ok target =>
        have hoffer := Store.offer_of_closed hclosed event
        have hstill : (machine.launched event target).store.isClosed = true := by
          rw [launched, hoffer]
          exact hclosed
        have hback : (machine.launched event target).retreat (machine.sending event target) =
            (machine.launched event target).enter machine.phase.value := if_pos rfl
        rw [start_of_validate_ok hvalid, hstill, if_pos rfl, hback]
        refine ⟨_, rfl, ⟨rfl, ?_, rfl⟩, hstill, ?_⟩
        · change (machine.store.offer event).1.payload.value = _
          rw [hoffer]
          rfl
        · change (machine.store.offer event).1.AtRest
          rw [hoffer]
          exact ⟨hrest.held, fun ticket hmem => Nat.lt_succ_of_lt (hrest.fresh ticket hmem)⟩
    obtain ⟨error, herror, hunmoved, hclosed, hrest⟩ := hstart
    obtain ⟨hothers, hend⟩ := ih hclosed hrest
    refine ⟨⟨hothers.phase.trans hunmoved.phase, hothers.payload.trans hunmoved.payload,
      hothers.history.trans hunmoved.history⟩, hend.1, hend.2.1, fun judged hmem => ?_⟩
    obtain rfl | hmem := List.mem_cons.mp hmem
    · exact ⟨error, herror⟩
    · exact hend.2.2 judged hmem

/-! ### What the start keeps -/

theorem table_start (machine : Machine φ κ ε σ) (event : ε) :
    (machine.start event).1.table = machine.table := by
  cases hvalid : machine.validate event with
  | error error => simp [start, hvalid]
  | ok target =>
    rw [start_of_validate_ok hvalid]
    split
    · obtain ⟨phase, heq, -⟩ :=
        (machine.launched event target).retreat_eq (machine.sending event target)
      rw [heq]
      rfl
    · rfl

theorem table_startAll (machine : Machine φ κ ε σ) (events : List ε) :
    (machine.startAll events).1.table = machine.table := by
  induction events generalizing machine with
  | nil => rfl
  | cons event events ih => exact (ih _).trans (machine.table_start event)

theorem length_startAll (machine : Machine φ κ ε σ) (events : List ε) :
    (machine.startAll events).2.length = events.length := by
  induction events generalizing machine with
  | nil => rfl
  | cons event events ih => exact congrArg (· + 1) (ih _)

/-- The start of a batch leaves nothing at the store that no sender asks about. -/
theorem startAll_spec (hrest : machine.store.AtRest) (events : List ε) :
    (machine.startAll events).1.store.Sound ∧
      ∀ ticket ∈ (machine.startAll events).1.store.held.map Offer.ticket,
        ticket ∈ ticketsOf (machine.startAll events).2 := by
  cases hclosed : machine.store.isClosed with
  | true =>
    have hstill := (startAll_of_closed hclosed hrest events).2.2.1
    refine ⟨hstill.sound, ?_⟩
    rw [hstill.held]
    exact nofun
  | false =>
    obtain ⟨hstarted, hlaunched⟩ := launched_startAll hclosed hrest.sound events
    refine ⟨hlaunched.sound, ?_⟩
    rw [hstarted, ticketsOf_enroll, hlaunched.held, hrest.held, List.nil_append]
    exact fun _ => id

end Machine

end RoundTable
