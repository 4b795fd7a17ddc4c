import Mathlib.Data.List.Chain
import Mathlib.Data.List.Forall2
import RoundTable.Automaton.Deeds
import RoundTable.Proofs.Automaton.Registrations
import RoundTable.Proofs.Automaton.Prefixes

/-!
# The history is a trail along the edges

A passage is recorded after the store is done with its event, when other sends may have published
their phases already, and with the phases that were found before. All the same the passages lead on
from phase to phase: the sends of a batch that pass are the first valid ones, and each of those was
judged in the phase to which the one before it leads. A batch that loses an event may leave the
phase anywhere, but then the loop of the store is over, and nothing is recorded any more.

The senders of a batch record their passages in the order in which they go on. So the history is a
trail in which each batch may have rearranged its own stretch, and it is the trail itself if the
senders of every batch have gone on in the order of the batch.

## Main definitions

* `Machine.Adds`: what a deed adds to the history
* `Machine.OnTrail`: machines whose history is a rearranged trail to where they stand

## Main results

* `Machine.adds_send`, `Machine.adds_batch`, `Machine.adds_commit`: what each deed adds to the
  history
* `Machine.OnTrail.doesAll`: so the history is always a trail, rearranged
* `Machine.history_is_trail`: where the history is a connected path of real edges
* `Machine.history_out_of_turn`: it need not be connected
-/

namespace RoundTable

variable {φ κ ε σ : Type}

/-! ### Results -/

theorem passedEvents_append (sent more : List (ε × Except (TransitionError φ ε) Unit)) :
    passedEvents (sent ++ more) = passedEvents sent ++ passedEvents more := by
  simp [passedEvents]

/-! ### Stretches one after another -/

section

variable [Tagged ε κ] {stretches : List (Stretch φ κ ε)} {done : List (Deed ε × List Nat)}

theorem map_tag_made (h : List.Forall₂ Stretch.Follows stretches done) :
    (stretches.flatMap Stretch.made).map Passage.tag =
      (passedEvents (stretches.flatMap Stretch.sent)).map tag := by
  induction h with
  | nil => rfl
  | cons hfirst _ ih =>
    rw [List.flatMap_cons, List.flatMap_cons, List.map_append, hfirst.tags, ih, passedEvents_append,
      List.map_append]

/-- What is recorded is the trail, each stretch of it in another order. -/
theorem recorded_perm_made (h : List.Forall₂ Stretch.Follows stretches done) :
    (stretches.flatMap Stretch.recorded).Perm (stretches.flatMap Stretch.made) := by
  induction h with
  | nil => exact .nil
  | cons hfirst _ ih => exact hfirst.perm.append ih

/-- If the senders of every batch go on in the order of the batch, what is recorded is the trail. -/
theorem recorded_eq_made (h : List.Forall₂ Stretch.Follows stretches done)
    (hsorted : ∀ deed ∈ done, deed.2.Pairwise (· < ·)) :
    stretches.flatMap Stretch.recorded = stretches.flatMap Stretch.made := by
  induction h with
  | nil => rfl
  | cons hfirst _ ih =>
    rw [List.flatMap_cons, List.flatMap_cons, hfirst.eq (hsorted _ List.mem_cons_self),
      ih fun deed hmem => hsorted deed (List.mem_cons_of_mem _ hmem)]

end

variable [DecidableEq φ] [DecidableEq κ] [Tagged ε κ]

/-! ### Trails -/

namespace EdgeTable

variable {table : EdgeTable φ κ ε σ} {first between last : φ} {passages more : List (Passage φ κ)}

theorem Trail.append (h : table.Trail first passages between)
    (hmore : table.Trail between more last) : table.Trail first (passages ++ more) last := by
  induction h with
  | nil => exact hmore
  | cons source admits _ ih => exact .cons source admits (ih hmore)

theorem Trail.admits (h : table.Trail first passages last) :
    ∀ passage ∈ passages, table.Admits passage := by
  induction h with
  | nil => simp
  | cons _ admits _ ih => exact List.forall_mem_cons.mpr ⟨admits, ih⟩

theorem Trail.source_of_head? (h : table.Trail first passages last) {passage : Passage φ κ}
    (hhead : passages.head? = some passage) : passage.source = first := by
  cases h with
  | nil => cases hhead
  | cons source =>
    cases hhead
    exact source

theorem Trail.isChain (h : table.Trail first passages last) :
    passages.IsChain fun passage next => next.source = passage.target := by
  induction h with
  | nil => exact .nil
  | cons _ _ rest ih =>
    exact List.isChain_cons.mpr ⟨fun next hmem => rest.source_of_head? hmem, ih⟩

/-- The phases that are visited are the sources and the targets of the passages. -/
theorem Trail.getElem?_phases (h : table.Trail first passages last) {i : Nat}
    {passage : Passage φ κ} (hpassage : passages[i]? = some passage) :
    (first :: passages.map Passage.target)[i]? = some passage.source ∧
      (passages.map Passage.target)[i]? = some passage.target := by
  induction h generalizing i with
  | nil => cases hpassage
  | cons source _ _ ih =>
    cases i with
    | zero =>
      cases hpassage
      exact ⟨congrArg some source.symm, rfl⟩
    | succ i => exact ih hpassage

theorem Trail.path_eq (h : table.Trail first passages last) (hne : passages ≠ []) :
    History.path ⟨passages⟩ = first :: passages.map Passage.target := by
  cases h with
  | nil => exact absurd rfl hne
  | cons source => simp [History.path, source]

/-- Two events with one tag are decided about by the same edge. -/
theorem select?_congr (table : EdgeTable φ κ ε σ) (phase : φ) {event other : ε}
    (htag : tag event = tag other) : table.select? phase event = table.select? phase other := by
  simp [select?, Edge.selects, htag]

/-- A passage that a table admits leads along one of the edges that were registered. -/
theorem Admits.exists_edge {edges : List (Edge φ κ ε σ)} {passage : Passage φ κ}
    (h : (ofEdges edges).Admits passage) :
    ∃ edge ∈ edges, edge.source = passage.source ∧ edge.target = passage.target ∧
      edge.selector.picks passage.tag = true ∧
      ∀ event : ε, tag event = passage.tag →
        (ofEdges edges).select? passage.source event = some edge := by
  obtain ⟨event, edge, htag, hselect, htarget⟩ := h
  have hfind := hselect
  rw [select?_ofEdges] at hfind
  have hfound := List.find?_some hfind
  rw [Bool.and_eq_true, decide_eq_true_eq, Edge.selects, htag] at hfound
  refine ⟨edge, List.mem_of_find?_eq_some hfind, hfound.1, htarget, hfound.2,
    fun other hother => ?_⟩
  rw [← hselect]
  exact select?_congr _ _ (hother.trans htag.symm)

end EdgeTable

namespace Machine

variable {machine before after : Machine φ κ ε σ}

/-! ### Valid events -/

theorem admits_of_validate (phase : φ) {event : ε} {target : φ}
    (h : (machine.enter phase).validate event = .ok target) (time : Instant) :
    machine.table.Admits ⟨phase, target, tag event, time⟩ := by
  have hjudge : (machine.enter phase).judge? event =
      (machine.table.select? phase event).map fun edge =>
        (edge, edge.guard.verdict machine.payload event) := rfl
  cases hselect : machine.table.select? phase event with
  | none =>
    rw [validate, hjudge, hselect] at h
    cases h
  | some edge =>
    rw [validate, hjudge, hselect, Option.map_some] at h
    dsimp only at h
    split at h <;> cases h
    exact ⟨event, edge, rfl, hselect, rfl⟩

/-- Valid events lead from phase to phase. -/
theorem trail_judged (machine : Machine φ κ ε σ) (phase : φ) (events : List ε) (n : Nat) :
    machine.table.Trail phase
      (((validOf (machine.judged phase events)).take n).map machine.passage)
      (lastPhase phase ((validOf (machine.judged phase events)).take n)) := by
  induction events generalizing phase n with
  | nil =>
    simp only [judged, validOf, List.filterMap_nil, List.take_nil, List.map_nil]
    exact .nil
  | cons event events ih =>
    rw [judged]
    split
    case h_1 => exact ih phase n
    case h_2 target hvalid =>
      cases n with
      | zero => exact .nil
      | succ n =>
        have hrest := ih target n
        have hcons : (validOf (.ok ⟨phase, target, event⟩ :: machine.judged target events)).take
            (n + 1) = ⟨phase, target, event⟩ :: (validOf (machine.judged target events)).take n :=
          rfl
        rw [hcons, lastPhase_cons]
        exact .cons rfl (admits_of_validate phase hvalid _) hrest

/-- Of a batch pass as many valid events as the store does not lose. -/
theorem passedEvents_zip_outcomes (machine : Machine φ κ ε σ) (phase : φ) (events : List ε)
    (n : Nat) :
    passedEvents (events.zip (outcomes n (machine.judged phase events))) =
      ((validOf (machine.judged phase events)).take n).map Valid.event := by
  induction events generalizing phase n with
  | nil => simp [passedEvents, judged, validOf]
  | cons event events ih =>
    rw [judged]
    split
    case h_1 error _ =>
      rw [outcomes.eq_def]
      exact ih phase n
    case h_2 target _ =>
      cases n with
      | zero =>
        have hrest := ih target 0
        rw [List.take_zero] at hrest
        exact hrest
      | succ n => exact congrArg (event :: ·) (ih target n)

/-! ### What deeds add -/

/-- What is done to a machine adds a stretch to its history that leads, once it is put in order,
from the phase in which the machine stood to the one in which it stands; once the loop of the store
is over, it stands nowhere. -/
def Adds (before : Machine φ κ ε σ) (order : List Nat)
    (sent : List (ε × Except (TransitionError φ ε) Unit)) (after : Machine φ κ ε σ) : Prop :=
  ∀ first, (before.store.isClosed = false → before.phase.value = first) →
    ∃ recorded made last, recorded.Perm made ∧
      (order.Pairwise (· < ·) → recorded = made) ∧
      after.history.passages = before.history.passages ++ recorded ∧
      before.table.Trail first made last ∧
      (after.store.isClosed = false → after.phase.value = last) ∧
      made.map Passage.tag = (passedEvents sent).map tag

/-- Where nothing passes, nothing is added. -/
theorem adds_of_history_eq {order : List Nat}
    {sent : List (ε × Except (TransitionError φ ε) Unit)}
    (hphase : after.phase.value = before.phase.value) (hhistory : after.history = before.history)
    (hclosed : before.store.isClosed = true → after.store.isClosed = true)
    (hsent : passedEvents sent = []) : Adds before order sent after := by
  intro first hstood
  refine ⟨[], [], first, .nil, fun _ => rfl, ?_, .nil, fun hopen => ?_, ?_⟩
  · rw [hhistory, List.append_nil]
  · have hbefore : before.store.isClosed = false := by
      cases h : before.store.isClosed with
      | false => rfl
      | true => exact (hclosed h).symm.trans hopen
    exact hphase.trans (hstood hbefore)
  · rw [hsent]
    rfl

theorem adds_send (hrest : machine.store.AtRest) (event : ε) :
    Adds machine [] [(event, (machine.send event).2)] (machine.send event).1 := by
  cases hvalid : machine.validate event with
  | error error =>
    rw [send_of_validate_error hvalid]
    exact adds_of_history_eq rfl rfl id rfl
  | ok target =>
    cases hloses : machine.store.loses event with
    | true =>
      obtain ⟨hresult, hunmoved, -, -, hclosed⟩ := send_of_loses hrest hvalid hloses
      rw [hresult]
      exact adds_of_history_eq hunmoved.phase hunmoved.history (fun _ => hclosed) rfl
    | false =>
      obtain ⟨hresult, hpassed, -, -, -⟩ := send_of_keeps hrest hvalid hloses
      have hopen : machine.store.isClosed = false := by
        rw [Store.loses, Bool.or_eq_false_iff] at hloses
        exact hloses.1
      let passage : Passage φ κ := ⟨machine.phase.value, target, tag event, machine.clock⟩
      have hadmits : machine.table.Admits passage :=
        admits_of_validate machine.phase.value hvalid _
      rw [hresult]
      intro first hstood
      refine ⟨[passage], [passage], target, .rfl, fun _ => rfl,
        congrArg History.passages hpassed.history, ?_, fun _ => hpassed.phase, rfl⟩
      exact .cons (hstood hopen) hadmits .nil

/-- What is handed to the store alone is not recorded. -/
theorem adds_commit (hrest : machine.store.AtRest) (event : ε) :
    Adds machine [] ([] : List (ε × Except (TransitionError φ ε) Unit))
      { machine with store := (machine.store.offer event).1.settle } := by
  refine adds_of_history_eq rfl rfl (fun hclosed => ?_) rfl
  have hloses : machine.store.loses event = true := by rw [Store.loses, hclosed, Bool.true_or]
  obtain ⟨entered, shown, hsettle⟩ := hrest.settle_offer_of_loses hloses
  change (machine.store.offer event).1.settle.isClosed = true
  rw [hsettle]
  rfl

/-- A batch adds the passages of the valid events that the store does not lose, in the order in
which their senders go on. -/
theorem adds_batch (hrest : machine.store.AtRest) {events : List ε} {labels : List BatchLabel}
    {results : List (Except (TransitionError φ ε) Unit)}
    (h : machine.batch? events labels = some (after, results)) :
    Adds machine (goingOn labels) (events.zip results) after := by
  cases hclosed : machine.store.isClosed with
  | true =>
    obtain ⟨hunmoved, hstill, herrors⟩ := batch?_of_closed hclosed hrest h
    refine adds_of_history_eq hunmoved.phase hunmoved.history (fun _ => hstill) ?_
    have hnone : ∀ send ∈ events.zip results, ¬send.2.isOk = true := by
      intro send hmem
      rw [herrors _ (List.of_mem_zip hmem).2]
      exact Bool.false_ne_true
    rw [passedEvents, List.filter_eq_nil_iff.mpr hnone, List.map_nil]
  | false =>
    obtain ⟨n, hendures, hcommitted⟩ := exists_committed hrest hclosed events
    have hend := hcommitted labels after results h
    intro first hstood
    obtain rfl := hstood hclosed
    refine ⟨_, _, _, hend.perm_take.map machine.passage, fun hsorted => ?_, hend.history,
      machine.trail_judged _ events n, fun hopen => ?_, ?_⟩
    · exact congrArg (List.map machine.passage) (hend.eq_take hsorted)
    · have hall : n = (validOf (machine.judged machine.phase.value events)).length :=
        Nat.le_antisymm hendures.le
          (Nat.le_of_not_lt (of_decide_eq_false (hend.isClosed.symm.trans hopen)))
      have hnone : (goingOn labels).filterMap (lostAt? (machine.judged machine.phase.value events)
          results) = [] := by
        have hlost := hend.perm_drop
        rw [hall, List.drop_length] at hlost
        exact hlost.eq_nil
      rw [hend.phase, hnone, hall, List.take_length]
      rfl
    · rw [hend.results, passedEvents_zip_outcomes, List.map_map, List.map_map]
      rfl

/-! ### Deeds -/

theorem Does.adds (hrest : before.store.AtRest) {deed : Deed ε} {order : List Nat}
    {sent : List (ε × Except (TransitionError φ ε) Unit)} (h : before.Does deed order after sent) :
    Adds before order sent after := by
  cases h with
  | one course =>
    have hcourse := Underway.validating.course? hrest course
    cases hcourse
    exact adds_send hrest _
  | batch course => exact adds_batch hrest course
  | commit course answer =>
    rw [hrest.eq_settle_of_moves course answer]
    exact adds_commit hrest _

/-- Every event that is sent gets a result. -/
theorem Does.map_fst (hrest : before.store.AtRest) {deed : Deed ε} {order : List Nat}
    {sent : List (ε × Except (TransitionError φ ε) Unit)} (h : before.Does deed order after sent) :
    sent.map Prod.fst = deed.sends := by
  cases h with
  | one => rfl
  | batch course => exact List.map_fst_zip (Nat.le_of_eq (keeps_batch? hrest course).2.2.symm)
  | commit => rfl

/-- A machine at rest with a history in stretches, which put in order are a trail, and that stands
at the end of it unless the loop of its store is over. -/
structure OnTrail (table : EdgeTable φ κ ε σ) (initial : φ) (done : List (Deed ε × List Nat))
    (stretches : List (Stretch φ κ ε)) (last : φ) (machine : Machine φ κ ε σ) : Prop where
  follows : List.Forall₂ Stretch.Follows stretches done
  history : machine.history.passages = stretches.flatMap Stretch.recorded
  trail : table.Trail initial (stretches.flatMap Stretch.made) last
  stands : machine.store.isClosed = false → machine.phase.value = last
  atRest : machine.store.AtRest
  table : machine.table = table

variable {table : EdgeTable φ κ ε σ} {initial : φ} {deeds : List (Deed ε)}
  {orders : List (List Nat)} {sent more : List (ε × Except (TransitionError φ ε) Unit)}

theorem onTrail_opened (table : EdgeTable φ κ ε σ) (initial : φ) (payload : σ)
    (reduce : σ → ε → σ) (breaks : σ → Bool) :
    OnTrail table initial [] [] initial (opened table initial payload reduce breaks) :=
  ⟨.nil, rfl, .nil, fun _ => rfl, Store.atRest_opened reduce breaks payload, rfl⟩

theorem OnTrail.does {done : List (Deed ε × List Nat)} {stretches : List (Stretch φ κ ε)} {last : φ}
    {deed : Deed ε} {order : List Nat} (h : OnTrail table initial done stretches last before)
    (hdeed : before.Does deed order after more) :
    ∃ recorded made next,
      OnTrail table initial (done ++ [(deed, order)]) (stretches ++ [⟨more, recorded, made⟩]) next
        after := by
  obtain ⟨recorded, made, next, hperm, heq, hhistory, htrail, hstands, htags⟩ :=
    hdeed.adds h.atRest last h.stands
  obtain ⟨htable, hafter⟩ := hdeed.keeps h.atRest
  have hfollows : Stretch.Follows ⟨more, recorded, made⟩ (deed, order) :=
    ⟨hdeed.map_fst h.atRest, htags, hperm, heq⟩
  refine ⟨recorded, made, next, List.rel_append h.follows (.cons hfollows .nil), ?_, ?_, hstands,
    hafter, htable.trans h.table⟩
  · rw [hhistory, h.history, List.flatMap_append, List.flatMap_singleton]
  · rw [List.flatMap_append, List.flatMap_singleton]
    exact h.trail.append (h.table ▸ htrail)

/-- Whatever is done to a machine, its history is a trail, rearranged stretch by stretch. -/
theorem OnTrail.doesAll (h : OnTrail table initial [] [] initial before)
    (hdeeds : before.DoesAll deeds orders after sent) :
    deeds.length = orders.length ∧ ∃ stretches last, sent = stretches.flatMap Stretch.sent ∧
      OnTrail table initial (deeds.zip orders) stretches last after := by
  induction hdeeds with
  | nil => exact ⟨rfl, [], initial, rfl, h⟩
  | concat _ hdeed ih =>
    obtain ⟨hlength, stretches, last, hsent, hbetween⟩ := ih
    obtain ⟨recorded, made, next, hnext⟩ := hbetween.does hdeed
    rw [List.length_append, List.length_append, hlength, List.zip_append hlength, hsent]
    refine ⟨rfl, _, next, ?_, hnext⟩
    rw [List.flatMap_append, List.flatMap_singleton]

/-- Every event that is sent gets a result. -/
theorem DoesAll.map_fst (hrest : before.store.AtRest)
    (h : before.DoesAll deeds orders after sent) :
    sent.map Prod.fst = deeds.flatMap Deed.sends := by
  induction h with
  | nil => rfl
  | concat hdeeds hdeed ih =>
    rw [List.map_append, ih, hdeed.map_fst (hdeeds.keeps hrest).2, List.flatMap_append,
      List.flatMap_singleton]

/-- **Where the history is a connected path of real edges.** Let edges be registered, let a machine
be opened with any reducer and any inspector (one that remembers what it was shown is one for
payloads that carry it along), and let anything be done to it: single sends, batches of sends, and
commits to its store alone, one after another and each by any course. Every event that is sent has
got a result. Of the passages in the history

* each one leads from the source to the target of a registered edge, which is the one that decides
  about every event with its tag in that source;
* there are as many as sends that have succeeded.

The path of the history is empty if there are no passages. Otherwise it has one phase more than
there are passages, and each passage leads to the phase with the number after its own.

Every deed has its stretch of the history, with one passage for each of its sends that have
succeeded. Put in the order of the sends, the passages have the tags of these sends, in order; the
first one starts in the initial phase, and every other one where the one before it ended. They are
recorded in this order, up to a rearrangement within the stretch of each batch whose senders have
not gone on in the order of the batch. So if the senders of every batch have gone on in that order,
all this holds of the history itself, and each passage leads from the phase with its number in the
path to the next one. -/
theorem history_is_trail {edges : List (Edge φ κ ε σ)} {payload : σ} {reduce : σ → ε → σ}
    {breaks : σ → Bool}
    (hdeeds : (opened (.ofEdges edges) initial payload reduce breaks).DoesAll deeds orders machine
      sent) :
    let passages := machine.history.passages
    let path := machine.history.path
    sent.map Prod.fst = deeds.flatMap Deed.sends ∧
      (∀ passage ∈ passages,
        ∃ edge ∈ edges, edge.source = passage.source ∧ edge.target = passage.target ∧
          edge.selector.picks passage.tag = true ∧
          ∀ event : ε, tag event = passage.tag →
            (EdgeTable.ofEdges edges).select? passage.source event = some edge) ∧
      passages.length = sent.countP (fun send => send.2.isOk) ∧
      (passages = [] → path = []) ∧
      (passages ≠ [] → path.length = passages.length + 1) ∧
      (∀ (i : Nat) (passage : Passage φ κ),
        passages[i]? = some passage → path[i + 1]? = some passage.target) ∧
      (∃ stretches : List (Stretch φ κ ε),
        List.Forall₂ Stretch.Follows stretches (deeds.zip orders) ∧
        sent = stretches.flatMap Stretch.sent ∧
        passages = stretches.flatMap Stretch.recorded ∧
        let made : List (Passage φ κ) := stretches.flatMap Stretch.made
        (∀ passage, made.head? = some passage → passage.source = initial) ∧
        made.IsChain (fun passage next => next.source = passage.target) ∧
        made.map Passage.tag = (passedEvents sent).map tag) ∧
      ((∀ order ∈ orders, order.Pairwise (· < ·)) →
        (∀ passage, passages.head? = some passage → passage.source = initial) ∧
        passages.IsChain (fun passage next => next.source = passage.target) ∧
        passages.map Passage.tag = (passedEvents sent).map tag ∧
        ∀ (i : Nat) (passage : Passage φ κ),
          passages[i]? = some passage → path[i]? = some passage.source) := by
  intro passages path
  have hopened := onTrail_opened (.ofEdges edges) initial payload reduce breaks
  have hsends := hdeeds.map_fst hopened.atRest
  obtain ⟨-, stretches, last, hsent, hon⟩ := hopened.doesAll hdeeds
  have htrail := hon.trail
  have htags : (stretches.flatMap Stretch.made).map Passage.tag = (passedEvents sent).map tag :=
    hsent ▸ map_tag_made hon.follows
  have hperm : passages.Perm (stretches.flatMap Stretch.made) :=
    (List.Perm.of_eq hon.history).trans (recorded_perm_made hon.follows)
  have hpath (hne : passages ≠ []) : ∃ first, path = first :: passages.map Passage.target := by
    obtain ⟨first, rest, heq⟩ := List.exists_cons_of_ne_nil hne
    exact ⟨first.source, by simp [path, History.path, show machine.history.passages = _ from heq,
      passages]⟩
  refine ⟨hsends, fun passage hmem => (htrail.admits passage (hperm.subset hmem)).exists_edge,
    ?_, fun hnil => ?_, fun hne => ?_, fun i passage hpassage => ?_,
    ⟨stretches, hon.follows, hsent, hon.history, fun passage => htrail.source_of_head?,
      htrail.isChain, htags⟩, fun hsorted => ?_⟩
  · have hlength := congrArg List.length htags
    rw [List.length_map, List.length_map, passedEvents, List.length_map] at hlength
    rw [List.countP_eq_length_filter, ← hlength, hperm.length_eq]
  · simp [path, History.path, show machine.history.passages = [] from hnil]
  · obtain ⟨first, heq⟩ := hpath hne
    rw [heq, List.length_cons, List.length_map]
  · have hne : passages ≠ [] := by
      rintro hnil
      rw [hnil] at hpassage
      cases hpassage
    obtain ⟨first, heq⟩ := hpath hne
    rw [heq, List.getElem?_cons_succ, List.getElem?_map, hpassage]
    rfl
  · have hdone : ∀ deed ∈ deeds.zip orders, deed.2.Pairwise (· < ·) := fun deed hmem =>
      hsorted deed.2 (List.of_mem_zip hmem).2
    have heq : passages = stretches.flatMap Stretch.made :=
      hon.history.trans (recorded_eq_made hon.follows hdone)
    rw [← heq] at htrail
    refine ⟨fun passage => htrail.source_of_head?, htrail.isChain,
      (congrArg (List.map Passage.tag) heq).trans htags, fun i passage hpassage => ?_⟩
    have hne : passages ≠ [] := by
      rintro hnil
      rw [hnil] at hpassage
      cases hpassage
    have hinitial : path = initial :: passages.map Passage.target := htrail.path_eq hne
    rw [hinitial]
    exact (htrail.getElem?_phases hpassage).1

/-- The fussy lamp before its first pulse. -/
def freshLamp : LampMachine :=
  opened fussyLamp .red 0 (fun count pulse => Folding.apply count pulse.weight .set)
    (fun count => 10 < count)

/-- A single send, a commit, and a batch that sends one pulse without an edge and loses the last
one. -/
def lampDeeds : List (Deed Pulse) :=
  [.round (.one ⟨.tick, 2⟩), .commit ⟨.tick, 1⟩,
    .round (.batch [⟨.advance, 1⟩, ⟨.tick, 0⟩, ⟨.back, 5⟩, ⟨.tick, 11⟩])]

theorem history_is_trail_freshLamp :
    (∃ orders, freshLamp.DoesAll lampDeeds orders (freshLamp.performAll lampDeeds).1
        (freshLamp.performAll lampDeeds).2) ∧
      (freshLamp.performAll lampDeeds).1.history.passages.map Passage.tag =
        [.tick, .advance, .back] ∧
      (freshLamp.performAll lampDeeds).1.history.path = [.red, .red, .green, .red] := by
  have hrest : freshLamp.store.AtRest := Store.atRest_opened _ _ _
  obtain ⟨orders, hsorted, hdeeds⟩ := doesAll_performAll hrest lampDeeds
  obtain ⟨-, -, -, -, -, -, -, hinOrder⟩ := history_is_trail hdeeds
  obtain ⟨-, -, htags, -⟩ := hinOrder hsorted
  refine ⟨⟨orders, hdeeds⟩, htags.trans ?_, ?_⟩
  · decide +kernel
  · decide +kernel

/-- **The history need not be connected.** Of two pulses that are sent at once and pass, the second
one is recorded first. So the history starts in green, and what comes next starts in red. -/
theorem history_out_of_turn :
    ¬∀ (edges : List (Edge Lamp Signal Pulse Int64)) (initial : Lamp) (payload : Int64)
      (reduce : Int64 → Pulse → Int64) (breaks : Int64 → Bool) (deeds : List (Deed Pulse))
      (orders : List (List Nat)) (machine : LampMachine)
      (sent : List (Pulse × Except (TransitionError Lamp Pulse) Unit)),
      (opened (.ofEdges edges) initial payload reduce breaks).DoesAll deeds orders machine sent →
      (∀ passage, machine.history.passages.head? = some passage → passage.source = initial) ∧
        machine.history.passages.IsChain (fun passage next => next.source = passage.target) ∧
        machine.history.passages.map Passage.tag = (passedEvents sent).map tag := by
  intro h
  obtain ⟨after, results, hcourse, hrecorded, -⟩ := exists_overtaken
  have hdeeds : relay.DoesAll [.round (.batch relayPulses)] [goingOn overtaking] after
      (relayPulses.zip results) := .concat .nil (.batch hcourse)
  obtain ⟨hfirst, -⟩ := h _ .red 0 _ _ _ _ after _ hdeeds
  cases hpassages : after.history.passages with
  | nil =>
    rw [hpassages] at hrecorded
    cases hrecorded
  | cons passage rest =>
    rw [hpassages, List.map_cons, List.cons.injEq] at hrecorded
    cases hrecorded.1.symm.trans (hfirst passage (by rw [hpassages]; rfl))

end Machine

end RoundTable
