import Mathlib.Data.List.Induction
import RoundTable.Automaton.Deeds
import RoundTable.Automaton.Lamp
import RoundTable.Proofs.Automaton.Batches
import RoundTable.Proofs.Automaton.Courses
import RoundTable.Proofs.Automaton.Refinement

/-!
# A batch commits a prefix of its valid events

Whatever has been done to a machine before, and by whatever course, its store has nothing to do when
a batch starts. So what becomes of the events of the batch is settled once they are offered: the
first valid ones pass, up to the one on which the inspector breaks down. The history grows by the
passages of those, each recorded by its own sender when it goes on. Nothing makes the senders go on
in the order of the batch; if they do, the passages are recorded in that order, and otherwise they
need not even be connected.

## Main results

* `Machine.Does.keeps`: whatever is done, the store is at rest afterwards
* `Machine.does_perform`: every deed can be done
* `Machine.batch_commits_prefix`: the events that pass are a prefix of the valid ones
* `Machine.batch_out_of_turn`: the passages need not be in the order of the batch
-/

namespace RoundTable

namespace Machine

variable {φ κ ε σ : Type} [DecidableEq φ] [DecidableEq κ] [Tagged ε κ]
  {machine before after : Machine φ κ ε σ} {deed : Deed ε} {order : List Nat}
  {sent : List (ε × Except (TransitionError φ ε) Unit)}

/-! ### Machines to which something has been done -/

/-- Whatever is done to a machine at rest, it is at rest again when all results are there. -/
theorem Does.keeps (hrest : before.store.AtRest) (h : before.Does deed order after sent) :
    after.table = before.table ∧ after.store.AtRest := by
  cases h with
  | one course =>
    have hcourse := Underway.validating.course? hrest course
    cases hcourse
    exact ⟨(sameModel_send hrest _).table, atRest_send hrest _⟩
  | batch course =>
    obtain ⟨htable, hafter, -⟩ := keeps_batch? hrest course
    exact ⟨htable, hafter⟩
  | @commit event _ _ _ course answer =>
    rw [hrest.eq_settle_of_moves course answer]
    exact ⟨rfl, hrest.settled event⟩

theorem DoesAll.keeps (hrest : before.store.AtRest) {deeds : List (Deed ε)}
    {orders : List (List Nat)} (h : before.DoesAll deeds orders after sent) :
    after.table = before.table ∧ after.store.AtRest := by
  induction h with
  | nil => exact ⟨rfl, hrest⟩
  | concat _ hdeed ih =>
    obtain ⟨htable, hbetween⟩ := ih
    obtain ⟨hkept, hafter⟩ := hdeed.keeps hbetween
    exact ⟨hkept.trans htable, hafter⟩

/-- Every deed can be done, with the senders of a batch going on in the order of the batch. -/
theorem does_perform (hrest : machine.store.AtRest) (deed : Deed ε) :
    ∃ order : List Nat, order.Pairwise (· < ·) ∧
      machine.Does deed order (machine.perform deed).1 (machine.perform deed).2 := by
  match deed with
  | .round (.one event) =>
    obtain ⟨labels, hlabels⟩ := Underway.validating.exists_course hrest
    exact ⟨[], .nil, .one hlabels⟩
  | .round (.batch events) =>
    obtain ⟨labels, hsorted, hlabels⟩ := exists_batch? hrest events
    exact ⟨_, hsorted, .batch hlabels⟩
  | .commit event =>
    obtain ⟨moves, hmoves⟩ := (machine.store.offer event).1.exists_moves_settle
    have hsettled := (hrest.settled event).held
    obtain ⟨result, hresult⟩ : ∃ result,
        (machine.store.offer event).1.settle.commitResult? (machine.store.offer event).2 =
          some result :=
      Store.exists_commitResult? hsettled _
    exact ⟨[], .nil, .commit hmoves hresult⟩

theorem doesAll_performAll (hrest : machine.store.AtRest) (deeds : List (Deed ε)) :
    ∃ orders : List (List Nat), (∀ order ∈ orders, order.Pairwise (· < ·)) ∧
      machine.DoesAll deeds orders (machine.performAll deeds).1 (machine.performAll deeds).2 := by
  induction deeds using List.reverseRecOn with
  | nil => exact ⟨[], nofun, .nil⟩
  | append_singleton deeds deed ih =>
    obtain ⟨orders, hsorted, hdeeds⟩ := ih
    obtain ⟨order, hlast, hdeed⟩ := does_perform (hdeeds.keeps hrest).2 deed
    have hconcat : machine.performAll (deeds ++ [deed]) =
        (((machine.performAll deeds).1.perform deed).1,
          (machine.performAll deeds).2 ++ ((machine.performAll deeds).1.perform deed).2) := by
      rw [performAll, List.foldl_append]
      rfl
    rw [hconcat]
    refine ⟨orders ++ [order], fun other hmem => ?_, .concat hdeeds hdeed⟩
    obtain hmem | hmem := List.mem_append.mp hmem
    · exact hsorted other hmem
    · rw [List.mem_singleton.mp hmem]
      exact hlast

/-! ### Every order is possible -/

/-- The senders of the valid events of a batch may go on in any order. -/
theorem exists_batch?_goingOn (hrest : machine.store.AtRest)
    (hopen : machine.store.isClosed = false) {events : List ε} (hnodup : order.Nodup)
    (hplaces : ∀ place, place ∈ order ↔
      ∃ valid, (machine.judged machine.phase.value events)[place]? = some (.ok valid)) :
    ∃ labels after results, goingOn labels = order ∧
      machine.batch? events labels = some (after, results) := by
  obtain ⟨hstarted, hlaunched⟩ := launched_startAll hopen hrest.sound events
  have hwaits (place : Nat) : place ∈ order ↔
      (sendingAt? ((machine.startAll events).2.map BatchStage.ofStart) place).isSome := by
    rw [hplaces, hstarted, isSome_sendingAt?_enroll]
  obtain ⟨labels, hlabels, hcourse⟩ := exists_bringThrough? hlaunched.sound hnodup hwaits
  exact ⟨labels, _, _, hlabels, hcourse⟩

/-! ### The prefix -/

/-- **A batch commits a prefix of its valid events.** Let anything be done to a machine, let its
loop not be over, and let a batch of events be sent. Judge each event in the phase to which the
valid ones before it lead, with the payload from before the batch. There is a number of valid events
such that the inspector does not break down on the payload after as many of them or fewer, but does
on the next one, if there is one. That the store settles before anybody goes on, and the senders
then go on in the order of the batch, is one course of it; and for every other order of the senders
of the valid events there are courses, too. In every course,

* the payload is what the reducer makes of that many valid events,
* as many sends of valid events succeed, from the first on, the other ones fail because the store is
  closed, and the sends of all other events fail with what was found against them,
* the sender of every valid event goes on exactly once, and the history grows by the passages of
  those that succeed, in the order in which they go on. This is a rearrangement of the order of the
  batch, and is that order if the senders go on in it,
* the inspector is shown the payload after each valid event that passes, in order, and the one on
  which it breaks down, but nothing after that. -/
theorem batch_commits_prefix {table : EdgeTable φ κ ε σ} {initial : φ} {payload : σ}
    {reduce : σ → ε → σ} {breaks : σ → Bool} {deeds : List (Deed ε)} {orders : List (List Nat)}
    (hreached : (opened table initial payload reduce breaks).DoesAll deeds orders machine sent)
    (hopen : machine.store.isClosed = false) (events : List ε) :
    let judged := machine.judged machine.phase.value events
    let valid := validOf judged
    ∃ n, machine.Endures valid n ∧
      (∃ labels, (goingOn labels).Pairwise (· < ·) ∧
        machine.batch? events labels = some (machine.sendAll events)) ∧
      (∀ order : List Nat, order.Nodup →
        (∀ place, place ∈ order ↔ ∃ valid, judged[place]? = some (.ok valid)) →
        ∃ labels after results, goingOn labels = order ∧
          machine.batch? events labels = some (after, results)) ∧
      ∀ labels after results, machine.batch? events labels = some (after, results) →
        let passed := (goingOn labels).filterMap (passedAt? judged results)
        after.payload = machine.payloadAfter (valid.take n) ∧
        results = outcomes n judged ∧
        (goingOn labels).Nodup ∧
        (∀ place, place ∈ goingOn labels ↔ ∃ valid, judged[place]? = some (.ok valid)) ∧
        after.history.passages = machine.history.passages ++ passed.map machine.passage ∧
        passed.Perm (valid.take n) ∧
        ((goingOn labels).Pairwise (· < ·) → passed = valid.take n) ∧
        after.store.shown = machine.store.shown ++
          (List.range (min (n + 1) valid.length)).map (fun k =>
            machine.payloadAfter (valid.take (k + 1))) ∧
        after.store.isClosed = decide (n < valid.length) := by
  intro judged valid
  have hrest : machine.store.AtRest :=
    (hreached.keeps (Store.atRest_opened reduce breaks payload)).2
  obtain ⟨n, hendures, hcommitted⟩ := exists_committed hrest hopen events
  refine ⟨n, hendures, exists_batch? hrest events,
    fun order hnodup hplaces => exists_batch?_goingOn hrest hopen hnodup hplaces,
    fun labels after results hcourse => ?_⟩
  have h := hcommitted labels after results hcourse
  exact ⟨h.payload, h.results, h.nodup, h.places, h.history, h.perm_take, h.eq_take, h.shown,
    h.isClosed⟩

/-- The fussy lamp after two rounds, one of them a batch. -/
def busyLamp : LampMachine :=
  (opened fussyLamp .red 0 (fun count pulse => Folding.apply count pulse.weight .set)
    (fun count => 10 < count)).rounds [.one ⟨.tick, 2⟩, .batch [⟨.back, 0⟩, ⟨.tick, 1⟩]]

/-- A batch for it: two pulses are valid and pass, one finds no edge in between, the inspector
breaks down on the next one, and one more is valid and lost. -/
def busyPulses : List Pulse :=
  [⟨.advance, 1⟩, ⟨.tick, 0⟩, ⟨.back, 5⟩, ⟨.tick, 11⟩, ⟨.tick, 2⟩, ⟨.shutdown, 0⟩]

theorem batch_commits_prefix_busyLamp :
    busyLamp.store.isClosed = false ∧
      (busyLamp.sendAll busyPulses).2 =
        [.ok (), .error (.noEdge .green ⟨.tick, 0⟩), .ok (), .error (.store .closed),
          .error (.store .closed), .error (.noEdge .red ⟨.shutdown, 0⟩)] ∧
      (busyLamp.sendAll busyPulses).1.payload = 5 := by
  have hopen : busyLamp.store.isClosed = false := by decide +kernel
  have hrest : (opened fussyLamp .red 0 (fun count pulse => Folding.apply count pulse.weight .set)
      (fun count => 10 < count) : LampMachine).store.AtRest := Store.atRest_opened _ _ _
  obtain ⟨orders, -, hreached⟩ := doesAll_performAll hrest
    [.round (.one ⟨.tick, 2⟩), .round (.batch [⟨.back, 0⟩, ⟨.tick, 1⟩])]
  change DoesAll _ _ _ busyLamp _ at hreached
  obtain ⟨n, hendures, ⟨labels, -, hlabels⟩, -, hcourses⟩ :=
    batch_commits_prefix hreached hopen busyPulses
  obtain ⟨hpayload, hresults, -⟩ := hcourses labels _ _ hlabels
  have htwo : busyLamp.Endures (validOf (busyLamp.judged busyLamp.phase.value busyPulses)) 2 :=
    ⟨by decide +kernel, by decide +kernel, fun _ => by decide +kernel⟩
  cases hendures.unique htwo
  refine ⟨hopen, hresults.trans ?_, hpayload.trans ?_⟩
  · rfl
  · decide +kernel

/-! ### Senders that overtake each other -/

/-- A lamp with two edges, one after the other. -/
def relayLamp : LampTable := .ofEdges
  [{ source := .red, target := .green, selector := .tag .advance, guard := .always },
    { source := .green, target := .amber, selector := .tag .tick, guard := .always }]

/-- A lamp for a relay, whose inspector never breaks down. -/
def relay : LampMachine :=
  opened relayLamp .red 0 (fun count pulse => Folding.apply count pulse.weight .add)
    (fun _ => false)

/-- Two pulses for it, both valid. -/
def relayPulses : List Pulse := [⟨.advance, 1⟩, ⟨.tick, 2⟩]

/-- The store confirms the first pulse, takes in the second one and confirms it, too, before anybody
goes on; then the second sender goes on before the first one. -/
def overtaking : List BatchLabel :=
  List.replicate 4 (.store .loop) ++ .store .line :: List.replicate 6 (.store .loop) ++
    [.sender 1, .sender 0]

theorem exists_overtaken :
    ∃ after results, relay.batch? relayPulses overtaking = some (after, results) ∧
      after.history.passages.map Passage.source = [.green, .red] ∧
      ((List.range relayPulses.length).filterMap (passedAt?
        (relay.judged relay.phase.value relayPulses) results)).map Valid.source =
          [.red, .green] := by
  obtain ⟨⟨after, results⟩, hcourse⟩ :
      ∃ come, relay.batch? relayPulses overtaking = some come :=
    Option.isSome_iff_exists.mp (by decide +kernel)
  have hrecorded : (relay.batch? relayPulses overtaking).map (fun next =>
      next.1.history.passages.map Passage.source) = some [.green, .red] := by
    decide +kernel
  have hpassed : (relay.batch? relayPulses overtaking).map (fun next =>
      ((List.range relayPulses.length).filterMap (passedAt?
        (relay.judged relay.phase.value relayPulses) next.2)).map Valid.source) =
          some [.red, .green] := by
    decide +kernel
  rw [hcourse] at hrecorded hpassed
  exact ⟨after, results, hcourse, Option.some.inj hrecorded, Option.some.inj hpassed⟩

/-- **The passages need not be in the order of the batch.** Both pulses pass, and the one that is
sent second is recorded first. -/
theorem batch_out_of_turn :
    ¬∀ (table : LampTable) (initial : Lamp) (payload : Int64) (reduce : Int64 → Pulse → Int64)
      (breaks : Int64 → Bool) (deeds : List (Deed Pulse)) (orders : List (List Nat))
      (machine : LampMachine) (sent : List (Pulse × Except (TransitionError Lamp Pulse) Unit)),
      (opened table initial payload reduce breaks).DoesAll deeds orders machine sent →
      machine.store.isClosed = false →
      ∀ (events : List Pulse) (labels : List BatchLabel) (after : LampMachine)
        (results : List (Except (TransitionError Lamp Pulse) Unit)),
        machine.batch? events labels = some (after, results) →
        let judged := machine.judged machine.phase.value events
        let passed := (List.range events.length).filterMap (passedAt? judged results)
        after.history.passages = machine.history.passages ++ passed.map machine.passage := by
  intro h
  obtain ⟨after, results, hcourse, hrecorded, hpassed⟩ := exists_overtaken
  have hordered := h relayLamp .red 0 _ _ [] [] relay [] .nil (by decide +kernel) relayPulses
    overtaking after results hcourse
  have hsources := congrArg (List.map Passage.source) hordered
  have hempty : relay.history.passages = [] := rfl
  have hpassage : Passage.source ∘ relay.passage = (Valid.source : Valid Lamp Pulse → Lamp) := rfl
  rw [hrecorded, hempty, List.nil_append, List.map_map, hpassage, hpassed] at hsources
  revert hsources
  decide

end Machine

end RoundTable
