import Mathlib.Data.List.Induction
import RoundTable.Automaton.Lamp
import RoundTable.Automaton.Registration

/-!
# A table is the list of its registrations

A table keeps its edges in groups, one for each phase, but nothing of the order of registration is
lost that matters: the edges of a phase are the registered ones with that source, in order, and the
edge that decides about an event is the first of them that is for its tag. And a draft of a table
keeps one condition for all edges to come, but every edge carries the conditions that were there when
it was added, and no others.

## Main results

* `EdgeTable.edgesFrom_ofEdges`, `EdgeTable.select?_ofEdges`, `EdgeTable.length_ofEdges`: tables from
  lists of edges
* `EdgeDraft.build_ofCalls`: what calls on the draft of an edge build
* `TableDraft.foldlM_call`: what calls on the draft of a table add
* `EdgeTable.lists_registrations`: a table is the list of its registrations
-/

namespace RoundTable

variable {φ κ ε σ : Type}

/-! ### Tables from lists of edges -/

namespace EdgeTable

variable [DecidableEq φ]

theorem edgesFrom_insert (table : EdgeTable φ κ ε σ) (edge : Edge φ κ ε σ) (phase : φ) :
    (table.insert edge).edgesFrom phase =
      table.edgesFrom phase ++ if edge.source = phase then [edge] else [] := by
  obtain ⟨groups⟩ := table
  simp only [insert, edgesFrom]
  induction groups with
  | nil =>
    by_cases hphase : edge.source = phase <;> simp [insertInto, hphase]
  | cons group groups ih =>
    obtain ⟨first, edges⟩ := group
    rw [insertInto]
    by_cases hsource : first = edge.source
    · subst hsource
      by_cases hphase : edge.source = phase <;> simp [hphase]
    · by_cases hphase : first = phase
      · subst hphase
        simp [hsource, Ne.symm hsource]
      · simp [hsource, hphase, ih]

theorem length_insert (table : EdgeTable φ κ ε σ) (edge : Edge φ κ ε σ) :
    (table.insert edge).length = table.length + 1 := by
  obtain ⟨groups⟩ := table
  simp only [insert, length]
  induction groups with
  | nil => rfl
  | cons group groups ih =>
    obtain ⟨first, edges⟩ := group
    rw [insertInto]
    split
    · simp
      omega
    · simp [ih]
      omega

/-- The edges of a phase keep the order in which they were registered. -/
theorem edgesFrom_ofEdges (edges : List (Edge φ κ ε σ)) (phase : φ) :
    (ofEdges edges).edgesFrom phase = edges.filter fun edge => edge.source = phase := by
  induction edges using List.reverseRecOn with
  | nil => rfl
  | append_singleton edges edge ih =>
    rw [ofEdges, List.foldl_append, List.foldl_cons, List.foldl_nil, ← ofEdges, edgesFrom_insert,
      ih, List.filter_append]
    by_cases hphase : edge.source = phase <;> simp [hphase]

theorem length_ofEdges (edges : List (Edge φ κ ε σ)) : (ofEdges edges).length = edges.length := by
  induction edges using List.reverseRecOn with
  | nil => rfl
  | append_singleton edges edge ih =>
    rw [ofEdges, List.foldl_append, List.foldl_cons, List.foldl_nil, ← ofEdges, length_insert, ih,
      List.length_append, List.length_singleton]

/-- The edge that decides about an event is the first one of the phase that was registered for its
tag. -/
theorem select?_ofEdges [DecidableEq κ] [Tagged ε κ] (edges : List (Edge φ κ ε σ)) (phase : φ)
    (event : ε) :
    (ofEdges edges).select? phase event =
      edges.find? fun edge => edge.source = phase && edge.selects event := by
  rw [select?, edgesFrom_ofEdges, List.find?_filter]
  simp

end EdgeTable

/-! ### Calls on the draft of an edge -/

namespace EdgeDraft

theorem ofCalls_concat (calls : List (EdgeCall φ κ ε σ)) (last : EdgeCall φ κ ε σ) :
    ofCalls (calls ++ [last]) = (ofCalls calls).call last := by
  rw [ofCalls, List.foldl_append]
  rfl

/-- The last parts that were given count, and the conditions add up. -/
theorem ofCalls_eq (calls : List (EdgeCall φ κ ε σ)) :
    ofCalls calls =
      { source := (calls.filterMap EdgeCall.source?).getLast?
        target := (calls.filterMap EdgeCall.target?).getLast?
        selector := (calls.filterMap EdgeCall.selector?).getLast?
        guard := Guard.all? (calls.filterMap EdgeCall.guard?) } := by
  induction calls using List.reverseRecOn with
  | nil => rfl
  | append_singleton calls last ih =>
    rw [ofCalls_concat, ih]
    simp only [List.filterMap_append, List.filterMap_cons, List.filterMap_nil]
    cases last with
    | leaving | entering | via =>
      simp [call, leaving, entering, via, EdgeCall.source?, EdgeCall.target?, EdgeCall.selector?,
        EdgeCall.guard?]
    | guarded | tested =>
      simp [call, guarded, EdgeCall.source?, EdgeCall.target?, EdgeCall.selector?,
        EdgeCall.guard?, Guard.all?_concat]
      cases Guard.all? (calls.filterMap EdgeCall.guard?) <;> rfl

/-- A draft that has got all the parts of an edge is built as it is to be registered. -/
theorem build_ofCalls {calls : List (EdgeCall φ κ ε σ)}
    (hcomplete : (TableCall.draft calls).IsComplete) (common : List (Guard σ ε)) :
    ∃ registration edge, Registration.ofCalls? common calls = some registration ∧
      (ofCalls calls).build = .ok edge ∧
      edge.require (common.foldl (· + ·) .always) = registration.edge := by
  have hlast {α : Type} (part : EdgeCall φ κ ε σ → Option α) {given : EdgeCall φ κ ε σ} {a : α}
      (hmem : given ∈ calls) (hpart : part given = some a) :
      ∃ last, (calls.filterMap part).getLast? = some last := by
    have hne : calls.filterMap part ≠ [] :=
      List.ne_nil_of_mem (List.mem_filterMap.mpr ⟨given, hmem, hpart⟩)
    exact ⟨_, List.getLast?_eq_some_getLast hne⟩
  obtain ⟨_, _, _, hleaving, hentering, hvia⟩ := hcomplete
  obtain ⟨source, hsource⟩ := hlast EdgeCall.source? hleaving rfl
  obtain ⟨target, htarget⟩ := hlast EdgeCall.target? hentering rfl
  obtain ⟨selector, hselector⟩ := hlast EdgeCall.selector? hvia rfl
  let own := calls.filterMap EdgeCall.guard?
  refine ⟨⟨source, target, selector, common, own⟩, ⟨source, target, selector, .all own⟩, ?_, ?_,
    rfl⟩
  · rw [Registration.ofCalls?, hsource, htarget, hselector]
    rfl
  · rw [ofCalls_eq, hsource, htarget, hselector]
    rfl

end EdgeDraft

/-! ### Calls on the draft of a table -/

namespace TableDraft

theorem addAll_eq (draft : TableDraft φ κ ε σ) (edges : List (Edge φ κ ε σ)) :
    draft.addAll edges =
      { draft with edges := draft.edges ++ edges.map fun edge => edge.require draft.common } := by
  induction edges generalizing draft with
  | nil => simp [addAll]
  | cons edge edges ih =>
    rw [addAll, List.foldl_cons, ← addAll, ih]
    simp [add]

/-- What calls on the draft of a table add. -/
theorem foldlM_call {calls : List (TableCall φ κ ε σ)} (hcomplete : ∀ call ∈ calls, call.IsComplete)
    (draft : TableDraft φ κ ε σ) {common : List (Guard σ ε)}
    (hcommon : draft.common = common.foldl (· + ·) .always) :
    ∃ after, calls.foldlM call draft = .ok after ∧
      after.edges = draft.edges ++ (registrationsUnder common calls).map Registration.edge := by
  induction calls generalizing draft common with
  | nil => exact ⟨draft, rfl, (List.append_nil _).symm⟩
  | cons first calls ih =>
    have hrest : ∀ call ∈ calls, call.IsComplete := fun call hmem =>
      hcomplete call (List.mem_cons_of_mem _ hmem)
    rw [List.foldlM_cons]
    cases first with
    | guarded guard =>
      have hnext : (draft.guarded guard).common = (common ++ [guard]).foldl (· + ·) .always := by
        rw [List.foldl_append, ← hcommon]
        rfl
      exact ih hrest _ hnext
    | draft edge =>
      obtain ⟨registration, built, hregistration, hbuilt, hedge⟩ :=
        EdgeDraft.build_ofCalls (hcomplete _ List.mem_cons_self) common
      obtain ⟨after, hcalls, hedges⟩ := ih hrest (draft.add built) hcommon
      refine ⟨after, ?_, hedges.trans ?_⟩
      · rw [call, addDraft, hbuilt]
        exact hcalls
      · rw [← hcommon] at hedge
        simp [registrationsUnder, hregistration, add, hedge]
    | edge edge =>
      obtain ⟨after, hcalls, hedges⟩ := ih hrest (draft.add edge) hcommon
      refine ⟨after, hcalls, hedges.trans ?_⟩
      have hedge : edge.require draft.common = (Registration.ofEdge common edge).edge := by
        rw [hcommon]
        rfl
      simp [registrationsUnder, add, hedge]
    | edges edges =>
      have hall := addAll_eq draft edges
      have hnext : (draft.addAll edges).common = common.foldl (· + ·) .always := by
        rw [hall]
        exact hcommon
      obtain ⟨after, hcalls, hedges⟩ := ih hrest _ hnext
      refine ⟨after, hcalls, hedges.trans ?_⟩
      have hedge : (fun edge : Edge φ κ ε σ => edge.require draft.common) =
          Registration.edge ∘ Registration.ofEdge common := by
        rw [hcommon]
        rfl
      simp [registrationsUnder, hall, hedge]

end TableDraft

/-! ### Registrations -/

/-- An edge accepts what all its conditions accept. -/
theorem Registration.accepts_edge_iff (registration : Registration φ κ ε σ) (payload : σ)
    (event : ε) :
    registration.edge.accepts payload event = true ↔
      ∀ guard ∈ registration.common ++ registration.own, guard.check payload event = true := by
  have halways : (Guard.always : Guard σ ε).check payload event = true := rfl
  rw [edge, Edge.accepts, Guard.check_add, Guard.check_foldl_add, Guard.check_all, halways,
    Bool.true_and, ← List.all_append, List.all_eq_true]

/-- Later calls change nothing about what has been registered. -/
theorem registrationsUnder_mono (common : List (Guard σ ε))
    (calls later : List (TableCall φ κ ε σ)) :
    registrationsUnder common calls <+: registrationsUnder common (calls ++ later) := by
  induction calls generalizing common with
  | nil => exact List.nil_prefix
  | cons first calls ih =>
    cases first with
    | guarded guard => exact ih (common ++ [guard])
    | draft edge => exact List.prefix_append_right_inj _ |>.mpr (ih common)
    | edge edge => exact List.cons_prefix_cons.mpr ⟨rfl, ih common⟩
    | edges edges => exact List.prefix_append_right_inj _ |>.mpr (ih common)

namespace EdgeTable

variable [DecidableEq φ]

/-- The table that calls build. -/
theorem ofCalls_eq {calls : List (TableCall φ κ ε σ)}
    (hcomplete : ∀ call ∈ calls, call.IsComplete) :
    ofCalls calls =
      if registrations calls = [] then .error [.noTransitions]
      else .ok (ofEdges ((registrations calls).map Registration.edge)) := by
  have hnone : (TableDraft.empty : TableDraft φ κ ε σ).common =
      ([] : List (Guard σ ε)).foldl (· + ·) .always := rfl
  obtain ⟨draft, hcalls, hedges⟩ := TableDraft.foldlM_call hcomplete .empty hnone
  have hbuild : ofCalls calls = draft.build := by
    rw [ofCalls, hcalls]
    rfl
  have hedges : draft.edges = (registrations calls).map Registration.edge := hedges
  rw [hbuild, TableDraft.build, hedges]
  by_cases hnone : registrations calls = [] <;> simp [hnone]

theorem eq_ofEdges_of_ofCalls {calls : List (TableCall φ κ ε σ)} {table : EdgeTable φ κ ε σ}
    (hcomplete : ∀ call ∈ calls, call.IsComplete) (hok : ofCalls calls = .ok table) :
    table = ofEdges ((registrations calls).map Registration.edge) := by
  rw [ofCalls_eq hcomplete] at hok
  split at hok
  · cases hok
  · cases hok
    rfl

/-- **A table is the list of its registrations.** Let calls be made on the draft of a table, and let
no drafted edge lack a part. Nothing is built exactly if no edge has been registered. Otherwise

* the edges of a phase are the registered ones with that source, in order of registration,
* there are as many edges as have been registered,
* the edge that decides about an event is the first registered one of the phase that is for its tag,
* an edge accepts exactly what all conditions accept that were put on all edges before it was
  registered, and all conditions of its own,
* and later calls only add edges behind those that are there. -/
theorem lists_registrations [DecidableEq κ] [Tagged ε κ] {calls : List (TableCall φ κ ε σ)}
    (hcomplete : ∀ call ∈ calls, call.IsComplete) :
    let registered := registrations calls
    (ofCalls calls = .error [.noTransitions] ↔ registered = []) ∧
    ((∃ table, ofCalls calls = .ok table) ↔ registered ≠ []) ∧
    (∀ (registration : Registration φ κ ε σ) (payload : σ) (event : ε),
      registration.edge.accepts payload event = true ↔
        ∀ guard ∈ registration.common ++ registration.own, guard.check payload event = true) ∧
    ∀ table, ofCalls calls = .ok table →
      (∀ phase, table.edgesFrom phase =
        (registered.filter fun registration => registration.source = phase).map
          Registration.edge) ∧
      table.length = registered.length ∧
      (∀ phase event, table.select? phase event =
        (registered.find? fun registration =>
          registration.source = phase && registration.selector.picks (tag event)).map
            Registration.edge) ∧
      ∀ later table', (∀ call ∈ later, call.IsComplete) →
        ofCalls (calls ++ later) = .ok table' →
          ∀ phase, table.edgesFrom phase <+: table'.edgesFrom phase := by
  intro registered
  have hbuilt : ofCalls calls = if registered = [] then .error [.noTransitions]
    else .ok (ofEdges (registered.map Registration.edge)) := ofCalls_eq hcomplete
  refine ⟨?_, ?_, Registration.accepts_edge_iff, fun table hok => ?_⟩
  · rw [hbuilt]
    split <;> simp_all
  · rw [hbuilt]
    split <;> simp_all
  · obtain rfl := eq_ofEdges_of_ofCalls hcomplete hok
    refine ⟨fun phase => ?_, ?_, fun phase event => ?_, fun later table' hlater hok' phase => ?_⟩
    · rw [edgesFrom_ofEdges, List.filter_map]
      rfl
    · rw [length_ofEdges, List.length_map]
    · rw [select?_ofEdges, List.find?_map]
      rfl
    · have hall : ∀ call ∈ calls ++ later, call.IsComplete := fun call hmem =>
        (List.mem_append.mp hmem).elim (hcomplete call) (hlater call)
      obtain rfl := eq_ofEdges_of_ofCalls hall hok'
      rw [edgesFrom_ofEdges, edgesFrom_ofEdges]
      exact ((registrationsUnder_mono [] calls later).map _).filter _

/-- Calls on the draft of a lamp's table: an edge, a condition on all edges to come, an edge whose
source is given twice and which has conditions of its own, and another edge. -/
def steppedLamp : List (TableCall Lamp Signal Pulse Int64) :=
  [.draft [.leaving .red, .entering .green, .via (.tag .advance)],
    .guarded (Comparison.guard .less "small" false 3),
    .draft [.tested "light" fun _ pulse => pulse.weight < 5, .leaving .off, .entering .amber,
      .via (.anyOf [.advance, .tick]), .leaving .red,
      .guarded (Comparison.guard .greater "positive" true 0)],
    .guarded (Comparison.guard .different "not one" false 1),
    .edges [{ source := .green, target := .red, selector := .tag .back, guard := .always }]]

theorem lists_registrations_steppedLamp :
    ∃ table, ofCalls steppedLamp = .ok table ∧
      (∀ call ∈ steppedLamp, call.IsComplete) ∧ table.length = 3 ∧
      ((table.edgesFrom .red).map fun edge =>
        (edge.target, edge.accepts 1 ⟨.tick, 4⟩, edge.accepts 3 ⟨.tick, 4⟩)) =
          [(.green, true, true), (.amber, true, false)] := by
  have hcomplete : ∀ call ∈ steppedLamp, call.IsComplete := by
    simp [steppedLamp, TableCall.IsComplete]
  obtain ⟨-, hbuilds, -, hlists⟩ := lists_registrations hcomplete
  obtain ⟨table, hok⟩ := hbuilds.mpr (by decide)
  obtain ⟨hedges, hlength, -⟩ := hlists table hok
  refine ⟨table, hok, hcomplete, hlength.trans rfl, ?_⟩
  rw [hedges]
  rfl

end EdgeTable

end RoundTable
