import RoundTable.Automaton.Assembly
import RoundTable.Proofs.Automaton.Registrations

/-!
# Builders report exactly what is missing

Edges and machines are built from drafts, and drafts are made call by call, in any order and however
often. Of each part that may be given again, the last one counts, and the conditions of an edge add
up in the order of the calls. If a part is missing without which nothing can be built, the report
names it, and every other such part, in a fixed order; so it never comes without a reason. In what
order the calls for different parts are made, can be told neither from a report nor from what is
built.

## Main definitions

* `LastGiven`: the value that counts, of those that calls give
* `Rearranged`: the same calls for each purpose, but mixed in another way
* `EdgeCall.Makes`, `MachineCall.Makes`: what is to be built from calls
* `ReportsMissing`: what is expected of a builder

## Main results

* `ReportsMissing.of_iff`: two cases are to be told apart, and all the rest follows
* `Rearranged.perm_filterMap`: conditions of two kinds may only change places
* `BuildError.exactly_what_is_missing`: drafts of edges and of machines report what is missing
-/

namespace RoundTable

variable {φ κ ε σ : Type}

/-! ### The value that counts -/

section

variable {γ δ ι α : Type} {part? : γ → Option α} {calls calls' : List γ} {a : α}

/-- A call gives a value, and no later one gives another. -/
def LastGiven (part? : γ → Option α) (calls : List γ) (a : α) : Prop :=
  ∃ before call after, calls = before ++ call :: after ∧ part? call = some a ∧
    ∀ later ∈ after, part? later = none

theorem lastGiven_iff : LastGiven part? calls a ↔ (calls.filterMap part?).getLast? = some a := by
  constructor
  · rintro ⟨before, call, after, rfl, hcall, hafter⟩
    have hnone : after.filterMap part? = [] := List.filterMap_eq_nil_iff.mpr hafter
    rw [List.filterMap_append, List.filterMap_cons_some hcall, hnone, List.getLast?_concat]
  · intro hlast
    induction calls using List.reverseRecOn with
    | nil => cases hlast
    | append_singleton calls call ih =>
      rw [List.filterMap_append] at hlast
      cases hcall : part? call with
      | some b =>
        rw [List.filterMap_cons_some hcall, List.filterMap_nil, List.getLast?_concat] at hlast
        cases hlast
        exact ⟨calls, call, [], rfl, hcall, nofun⟩
      | none =>
        rw [List.filterMap_cons_none hcall, List.filterMap_nil, List.append_nil] at hlast
        obtain ⟨before, given, after, rfl, hgiven, hafter⟩ := ih hlast
        refine ⟨before, given, after ++ [call], by simp, hgiven, fun later hlater => ?_⟩
        obtain hmem | hmem := List.mem_append.mp hlater
        · exact hafter later hmem
        · rwa [List.mem_singleton.mp hmem]

theorem LastGiven.unique {b : α} (ha : LastGiven part? calls a) (hb : LastGiven part? calls b) :
    a = b :=
  Option.some.inj ((lastGiven_iff.mp ha).symm.trans (lastGiven_iff.mp hb))

/-- An error is reported about a part if no call has prevented it. -/
theorem ifMissing_getLast? {supplies? : γ → Option BuildError} {error : BuildError}
    (hsupplies : ∀ call, (part? call).isSome = true ↔ supplies? call = some error)
    (calls : List γ) :
    error.ifMissing (calls.filterMap part?).getLast? =
      [error].filter fun e => ∀ call ∈ calls, supplies? call ≠ some e := by
  by_cases hgiven : ∃ call ∈ calls, supplies? call = some error
  · have hpart : (calls.filterMap part?).getLast?.isSome = true := by
      obtain ⟨call, hmem, hcall⟩ := hgiven
      obtain ⟨b, hb⟩ := Option.isSome_iff_exists.mp ((hsupplies call).mpr hcall)
      have hmem : b ∈ calls.filterMap part? := List.mem_filterMap.mpr ⟨call, hmem, hb⟩
      exact List.getLast?_isSome.mpr (List.ne_nil_of_mem hmem)
    rw [BuildError.ifMissing, if_pos hpart]
    simpa using hgiven
  · have hpart : calls.filterMap part? = [] := by
      refine List.filterMap_eq_nil_iff.mpr fun call hmem => ?_
      refine Option.not_isSome_iff_eq_none.mp fun hsome => ?_
      exact hgiven ⟨call, hmem, (hsupplies call).mp hsome⟩
    have hkept : ([error].filter fun e => ∀ call ∈ calls, supplies? call ≠ some e) = [error] := by
      simpa using hgiven
    rw [hpart, hkept]
    rfl

/-! ### Calls in another order -/

variable [DecidableEq ι] {setter : γ → ι}

/-- For each purpose there are the same calls in the same order; between calls for different
purposes the order may be another one. -/
def Rearranged (setter : γ → ι) (calls calls' : List γ) : Prop :=
  ∀ purpose, (calls.filter fun call => setter call = purpose) =
    calls'.filter fun call => setter call = purpose

/-- Values that are given for one purpose only are given in the same order. -/
theorem Rearranged.filterMap_eq (h : Rearranged setter calls calls') {purpose : ι}
    (hpart : ∀ call, setter call ≠ purpose → part? call = none) :
    calls.filterMap part? = calls'.filterMap part? := by
  have honly (calls : List γ) :
      calls.filterMap part? =
        (calls.filter fun call => setter call = purpose).filterMap part? := by
    rw [List.filterMap_filter]
    refine congrArg (List.filterMap · calls) (funext fun call => ?_)
    by_cases hcall : setter call = purpose <;> simp [hcall, hpart]
  rw [honly calls, honly calls', h purpose]

/-- Values that are given for one of two purposes are the same up to their order. -/
theorem Rearranged.perm_filterMap (h : Rearranged setter calls calls') {first second : ι}
    (hpart : ∀ call, setter call ≠ first → setter call ≠ second → part? call = none) :
    (calls.filterMap part?).Perm (calls'.filterMap part?) := by
  have hsplit (calls : List γ) :
      ((calls.filter fun call => setter call = first).filterMap part? ++
        (calls.filter fun call => ¬setter call = first).filterMap part?).Perm
          (calls.filterMap part?) := by
    rw [← List.filterMap_append]
    refine List.Perm.filterMap part? ?_
    simpa using List.filter_append_perm (fun call => decide (setter call = first)) calls
  have hrest (calls : List γ) :
      (calls.filter fun call => ¬setter call = first).filterMap part? =
        ((calls.filter fun call => setter call = second).filter
          fun call => ¬setter call = first).filterMap part? := by
    simp only [List.filterMap_filter]
    refine congrArg (List.filterMap · calls) (funext fun call => ?_)
    by_cases hfirst : setter call = first <;> by_cases hsecond : setter call = second <;>
      simp_all
  refine (hsplit calls).symm.trans (.trans ?_ (hsplit calls'))
  rw [hrest calls, hrest calls', h first, h second]

/-! ### Builders -/

/-- What is expected of a builder that needs certain parts. -/
structure ReportsMissing (build : List γ → Except (List BuildError) δ) (required : List BuildError)
    (supplies? : γ → Option BuildError) (makes : List γ → δ → Prop) (setter : γ → ι) : Prop where
  /-- No part is required twice. -/
  once : required.Nodup
  /-- Something is built exactly if each part has been given. -/
  builds_iff (calls : List γ) : (∃ made, build calls = .ok made) ↔
    ∀ error ∈ required, ∃ call ∈ calls, supplies? call = some error
  /-- What is built is made of what counts among the calls. -/
  ok_iff (calls : List γ) (made : δ) : build calls = .ok made ↔ makes calls made
  /-- A report lists the parts that were never given, in the order in which they are required; and
  there is one only if there are such parts. -/
  error_iff (calls : List γ) (errors : List BuildError) : build calls = .error errors ↔
    (errors = required.filter fun error => ∀ call ∈ calls, supplies? call ≠ some error) ∧
      errors ≠ []
  /-- The order of calls for different purposes makes no difference. -/
  rearranged (calls calls' : List γ) (h : Rearranged setter calls calls') :
    build calls = build calls'

/-- Something is built exactly if there is nothing to report. -/
theorem ReportsMissing.of_iff {build : List γ → Except (List BuildError) δ}
    {required : List BuildError} {supplies? : γ → Option BuildError} {makes : List γ → δ → Prop}
    (honce : required.Nodup)
    (hok : ∀ calls made, build calls = .ok made ↔ makes calls made)
    (herror : ∀ calls errors, build calls = .error errors ↔
      (errors = required.filter fun error => ∀ call ∈ calls, supplies? call ≠ some error) ∧
        errors ≠ [])
    (hrearranged : ∀ calls calls', Rearranged setter calls calls' → build calls = build calls') :
    ReportsMissing build required supplies? makes setter := by
  refine ⟨honce, fun calls => ?_, hok, herror, hrearranged⟩
  have hnothing : (required.filter fun error => ∀ call ∈ calls, supplies? call ≠ some error) = [] ↔
      ∀ error ∈ required, ∃ call ∈ calls, supplies? call = some error := by
    simp [List.filter_eq_nil_iff]
  rw [← hnothing]
  constructor
  · rintro ⟨made, hmade⟩
    by_contra hne
    cases hmade.symm.trans ((herror calls _).mpr ⟨rfl, hne⟩)
  · intro hnone
    cases hbuild : build calls with
    | ok made => exact ⟨made, rfl⟩
    | error errors =>
      obtain ⟨rfl, hne⟩ := (herror calls errors).mp hbuild
      exact absurd hnone hne

end

/-! ### Edges -/

/-- An edge is made of the last source, target and selector given, and its guard is the conjunction
of all conditions in the order of the calls. -/
structure EdgeCall.Makes (calls : List (EdgeCall φ κ ε σ)) (edge : Edge φ κ ε σ) : Prop where
  source : LastGiven source? calls edge.source
  target : LastGiven target? calls edge.target
  selector : LastGiven selector? calls edge.selector
  guard : edge.guard = Guard.all (calls.filterMap guard?)

namespace EdgeCall

variable {call : EdgeCall φ κ ε σ}

theorem source?_of_setter_ne (h : call.setter ≠ .leaving) : call.source? = none := by
  cases call <;> simp_all [setter, source?]

theorem target?_of_setter_ne (h : call.setter ≠ .entering) : call.target? = none := by
  cases call <;> simp_all [setter, target?]

theorem selector?_of_setter_ne (h : call.setter ≠ .via) : call.selector? = none := by
  cases call <;> simp_all [setter, selector?]

theorem guard?_of_setter_ne (h : call.setter ≠ .guarded) (h' : call.setter ≠ .tested) :
    call.guard? = none := by
  cases call <;> simp_all [setter, guard?]

end EdgeCall

namespace EdgeDraft

/-- The parts without which there is no edge. -/
def required : List BuildError := [.missingFromPhase, .missingToPhase, .missingSelector]

/-- What a draft lacks. -/
def missing (draft : EdgeDraft φ κ ε σ) : List BuildError :=
  BuildError.missingFromPhase.ifMissing draft.source ++
    BuildError.missingToPhase.ifMissing draft.target ++
      BuildError.missingSelector.ifMissing draft.selector

theorem build_eq_ok_iff {draft : EdgeDraft φ κ ε σ} {edge : Edge φ κ ε σ} :
    draft.build = .ok edge ↔ draft.source = some edge.source ∧ draft.target = some edge.target ∧
      draft.selector = some edge.selector ∧ edge.guard = draft.guard.getD default := by
  obtain ⟨source | source, target | target, selector | selector, guard⟩ := draft
  case some.some.some =>
    obtain ⟨source', target', selector', guard'⟩ := edge
    simp [build, eq_comm]
  all_goals simp [build]

theorem build_eq_error_iff {draft : EdgeDraft φ κ ε σ} {errors : List BuildError} :
    draft.build = .error errors ↔ errors = draft.missing ∧ errors ≠ [] := by
  obtain ⟨source | source, target | target, selector | selector, guard⟩ := draft
  case some.some.some => simp [build, missing, BuildError.ifMissing]
  all_goals
    simp only [build, Except.error.injEq]
    exact ⟨fun h => h ▸ ⟨rfl, List.cons_ne_nil _ _⟩, fun h => h.1.symm⟩

theorem missing_ofCalls (calls : List (EdgeCall φ κ ε σ)) :
    (ofCalls calls).missing =
      required.filter fun error => ∀ call ∈ calls, call.supplies? ≠ some error := by
  have hsource (call : EdgeCall φ κ ε σ) :
      call.source?.isSome = true ↔ call.supplies? = some .missingFromPhase := by
    cases call <;> simp [EdgeCall.source?, EdgeCall.supplies?]
  have htarget (call : EdgeCall φ κ ε σ) :
      call.target?.isSome = true ↔ call.supplies? = some .missingToPhase := by
    cases call <;> simp [EdgeCall.target?, EdgeCall.supplies?]
  have hselector (call : EdgeCall φ κ ε σ) :
      call.selector?.isSome = true ↔ call.supplies? = some .missingSelector := by
    cases call <;> simp [EdgeCall.selector?, EdgeCall.supplies?]
  rw [missing, ofCalls_eq]
  dsimp only
  rw [ifMissing_getLast? hsource, ifMissing_getLast? htarget, ifMissing_getLast? hselector,
    ← List.filter_append, ← List.filter_append]
  rfl

theorem ofCalls_congr {calls calls' : List (EdgeCall φ κ ε σ)}
    (h : Rearranged EdgeCall.part calls calls') : ofCalls calls = ofCalls calls' := by
  have hpart {call : EdgeCall φ κ ε σ} {setter : EdgeSetter} (hne : call.part ≠ setter.part) :
      call.setter ≠ setter := fun heq => hne (congrArg EdgeSetter.part heq)
  have hsource := h.filterMap_eq fun call (hne : call.part ≠ .source) =>
    EdgeCall.source?_of_setter_ne (hpart hne)
  have htarget := h.filterMap_eq fun call (hne : call.part ≠ .target) =>
    EdgeCall.target?_of_setter_ne (hpart hne)
  have hselector := h.filterMap_eq fun call (hne : call.part ≠ .selector) =>
    EdgeCall.selector?_of_setter_ne (hpart hne)
  have hguard := h.filterMap_eq fun call (hne : call.part ≠ .condition) =>
    EdgeCall.guard?_of_setter_ne (hpart hne) (hpart hne)
  rw [ofCalls_eq, ofCalls_eq, hsource, htarget, hselector, hguard]

/-- Edges are built of the parts that count, or it is reported what they lack. -/
theorem reportsMissing :
    ReportsMissing (fun calls : List (EdgeCall φ κ ε σ) => (ofCalls calls).build) required
      EdgeCall.supplies? EdgeCall.Makes EdgeCall.part := by
  refine .of_iff (by decide) (fun calls edge => ?_) (fun calls errors => ?_)
    fun calls calls' h => congrArg build (ofCalls_congr h)
  · rw [build_eq_ok_iff, ofCalls_eq]
    simp only [← lastGiven_iff]
    exact ⟨fun ⟨hsource, htarget, hselector, hguard⟩ => ⟨hsource, htarget, hselector, hguard⟩,
      fun h => ⟨h.source, h.target, h.selector, h.guard⟩⟩
  · rw [build_eq_error_iff, missing_ofCalls]

end EdgeDraft

/-! ### Conditions in another order -/

namespace EdgeDraft

variable {calls calls' : List (EdgeCall φ κ ε σ)}

/-- Conditions given as guards and conditions given as tests may change places: the same drafts are
built, with the same parts, and what the edges accept is the same. -/
theorem build_rearranged (h : Rearranged EdgeCall.setter calls calls') :
    (∀ errors, (ofCalls calls).build = .error errors ↔ (ofCalls calls').build = .error errors) ∧
    ∀ edge, (ofCalls calls).build = .ok edge → ∃ edge', (ofCalls calls').build = .ok edge' ∧
      edge'.source = edge.source ∧ edge'.target = edge.target ∧ edge'.selector = edge.selector ∧
      ∀ payload event, edge'.accepts payload event = edge.accepts payload event := by
  have hsource := h.filterMap_eq fun _ => EdgeCall.source?_of_setter_ne
  have htarget := h.filterMap_eq fun _ => EdgeCall.target?_of_setter_ne
  have hselector := h.filterMap_eq fun _ => EdgeCall.selector?_of_setter_ne
  have hguard := h.perm_filterMap fun _ => EdgeCall.guard?_of_setter_ne
  refine ⟨fun errors => ?_, fun edge hedge => ?_⟩
  · simp only [build_eq_error_iff, missing, ofCalls_eq, hsource, htarget, hselector]
  · obtain ⟨hedgeSource, hedgeTarget, hedgeSelector, hedgeGuard⟩ := build_eq_ok_iff.mp hedge
    rw [ofCalls_eq] at hedgeSource hedgeTarget hedgeSelector hedgeGuard
    refine ⟨{ edge with guard := .all (calls'.filterMap EdgeCall.guard?) }, ?_, rfl, rfl, rfl,
      fun payload event => ?_⟩
    · rw [build_eq_ok_iff, ofCalls_eq, ← hsource, ← htarget, ← hselector]
      exact ⟨hedgeSource, hedgeTarget, hedgeSelector, rfl⟩
    · have hedgeGuard : edge.guard = .all (calls.filterMap EdgeCall.guard?) := hedgeGuard
      rw [Edge.accepts, Edge.accepts, hedgeGuard, Guard.check_all, Guard.check_all]
      exact (hguard.all_eq).symm

end EdgeDraft

/-! ### Machines -/

/-- The inspector that counts: the last one given, and one that never breaks down if there is
none. -/
def MachineCall.Inspects (calls : List (MachineCall φ κ ε σ)) (breaks : σ → Bool) : Prop :=
  LastGiven breaks? calls breaks ∨
    (∀ call ∈ calls, call.breaks? = none) ∧ breaks = fun _ => false

/-- A machine is opened with the last edges, phase, payload, reducer and inspector given. -/
def MachineCall.Makes (calls : List (MachineCall φ κ ε σ)) (machine : Machine φ κ ε σ) : Prop :=
  ∃ table initial payload reduce breaks,
    LastGiven table? calls table ∧ LastGiven initial? calls initial ∧
    LastGiven payload? calls payload ∧ LastGiven reduce? calls reduce ∧ Inspects calls breaks ∧
    machine = .opened table initial payload reduce breaks

namespace MachineCall

variable {call : MachineCall φ κ ε σ}

theorem table?_of_setter_ne (h : call.setter ≠ .along) : call.table? = none := by
  cases call <;> simp_all [setter, table?]

theorem initial?_of_setter_ne (h : call.setter ≠ .startingIn) : call.initial? = none := by
  cases call <;> simp_all [setter, initial?]

theorem payload?_of_setter_ne (h : call.setter ≠ .startingWith) : call.payload? = none := by
  cases call <;> simp_all [setter, payload?]

theorem reduce?_of_setter_ne (h : call.setter ≠ .folding) : call.reduce? = none := by
  cases call <;> simp_all [setter, reduce?]

theorem breaks?_of_setter_ne (h : call.setter ≠ .inspected) : call.breaks? = none := by
  cases call <;> simp_all [setter, breaks?]

theorem inspects_iff {calls : List (MachineCall φ κ ε σ)} {breaks : σ → Bool} :
    Inspects calls breaks ↔
      (calls.filterMap breaks?).getLast?.getD (fun _ => false) = breaks := by
  rw [Inspects, lastGiven_iff, ← List.filterMap_eq_nil_iff, ← List.getLast?_eq_none_iff]
  cases (calls.filterMap breaks?).getLast? <;> simp [eq_comm]

end MachineCall

namespace MachineDraft

/-- The parts without which there is no machine. -/
def required : List BuildError :=
  [.missingTable, .missingInitialPhase, .missingPayload, .missingReducer]

/-- What a draft lacks. -/
def missing (draft : MachineDraft φ κ ε σ) : List BuildError :=
  BuildError.missingTable.ifMissing draft.table ++
    BuildError.missingInitialPhase.ifMissing draft.initial ++
      BuildError.missingPayload.ifMissing draft.payload ++
        BuildError.missingReducer.ifMissing draft.reduce

theorem ofCalls_concat (calls : List (MachineCall φ κ ε σ)) (last : MachineCall φ κ ε σ) :
    ofCalls (calls ++ [last]) = (ofCalls calls).call last := by
  rw [ofCalls, List.foldl_append]
  rfl

/-- The last parts that were given count. -/
theorem ofCalls_eq (calls : List (MachineCall φ κ ε σ)) :
    ofCalls calls =
      { table := (calls.filterMap MachineCall.table?).getLast?
        initial := (calls.filterMap MachineCall.initial?).getLast?
        payload := (calls.filterMap MachineCall.payload?).getLast?
        reduce := (calls.filterMap MachineCall.reduce?).getLast?
        breaks := (calls.filterMap MachineCall.breaks?).getLast?.getD fun _ => false } := by
  induction calls using List.reverseRecOn with
  | nil => rfl
  | append_singleton calls last ih =>
    rw [ofCalls_concat, ih]
    simp only [List.filterMap_append, List.filterMap_cons, List.filterMap_nil]
    cases last <;>
      simp [call, along, startingIn, startingWith, folding, inspected, MachineCall.table?,
        MachineCall.initial?, MachineCall.payload?, MachineCall.reduce?, MachineCall.breaks?]

theorem build_eq_ok_iff {draft : MachineDraft φ κ ε σ} {machine : Machine φ κ ε σ} :
    draft.build = .ok machine ↔ ∃ table initial payload reduce,
      draft.table = some table ∧ draft.initial = some initial ∧ draft.payload = some payload ∧
      draft.reduce = some reduce ∧ machine = .opened table initial payload reduce draft.breaks := by
  obtain ⟨table | table, initial | initial, payload | payload, reduce | reduce, breaks⟩ := draft
  case some.some.some.some => simp [build, eq_comm]
  all_goals simp [build]

theorem build_eq_error_iff {draft : MachineDraft φ κ ε σ} {errors : List BuildError} :
    draft.build = .error errors ↔ errors = draft.missing ∧ errors ≠ [] := by
  obtain ⟨table | table, initial | initial, payload | payload, reduce | reduce, breaks⟩ := draft
  case some.some.some.some => simp [build, missing, BuildError.ifMissing]
  all_goals
    simp only [build, Except.error.injEq]
    exact ⟨fun h => h ▸ ⟨rfl, List.cons_ne_nil _ _⟩, fun h => h.1.symm⟩

theorem missing_ofCalls (calls : List (MachineCall φ κ ε σ)) :
    (ofCalls calls).missing =
      required.filter fun error => ∀ call ∈ calls, call.supplies? ≠ some error := by
  have htable (call : MachineCall φ κ ε σ) :
      call.table?.isSome = true ↔ call.supplies? = some .missingTable := by
    cases call <;> simp [MachineCall.table?, MachineCall.supplies?]
  have hinitial (call : MachineCall φ κ ε σ) :
      call.initial?.isSome = true ↔ call.supplies? = some .missingInitialPhase := by
    cases call <;> simp [MachineCall.initial?, MachineCall.supplies?]
  have hpayload (call : MachineCall φ κ ε σ) :
      call.payload?.isSome = true ↔ call.supplies? = some .missingPayload := by
    cases call <;> simp [MachineCall.payload?, MachineCall.supplies?]
  have hreduce (call : MachineCall φ κ ε σ) :
      call.reduce?.isSome = true ↔ call.supplies? = some .missingReducer := by
    cases call <;> simp [MachineCall.reduce?, MachineCall.supplies?]
  rw [missing, ofCalls_eq]
  dsimp only
  rw [ifMissing_getLast? htable, ifMissing_getLast? hinitial, ifMissing_getLast? hpayload,
    ifMissing_getLast? hreduce, ← List.filter_append, ← List.filter_append, ← List.filter_append]
  rfl

theorem ofCalls_congr {calls calls' : List (MachineCall φ κ ε σ)}
    (h : Rearranged MachineCall.setter calls calls') : ofCalls calls = ofCalls calls' := by
  have htable := h.filterMap_eq fun _ => MachineCall.table?_of_setter_ne
  have hinitial := h.filterMap_eq fun _ => MachineCall.initial?_of_setter_ne
  have hpayload := h.filterMap_eq fun _ => MachineCall.payload?_of_setter_ne
  have hreduce := h.filterMap_eq fun _ => MachineCall.reduce?_of_setter_ne
  have hbreaks := h.filterMap_eq fun _ => MachineCall.breaks?_of_setter_ne
  rw [ofCalls_eq, ofCalls_eq, htable, hinitial, hpayload, hreduce, hbreaks]

/-- Machines are opened with the parts that count, or it is reported what they lack. -/
theorem reportsMissing :
    ReportsMissing (fun calls : List (MachineCall φ κ ε σ) => (ofCalls calls).build) required
      MachineCall.supplies? MachineCall.Makes MachineCall.setter := by
  refine .of_iff (by decide) (fun calls machine => ?_) (fun calls errors => ?_)
    fun calls calls' h => congrArg build (ofCalls_congr h)
  · rw [build_eq_ok_iff, ofCalls_eq]
    simp only [← lastGiven_iff, MachineCall.Makes, MachineCall.inspects_iff]
    constructor
    · rintro ⟨table, initial, payload, reduce, htable, hinitial, hpayload, hreduce, hmachine⟩
      exact ⟨table, initial, payload, reduce, _, htable, hinitial, hpayload, hreduce, rfl, hmachine⟩
    · rintro ⟨table, initial, payload, reduce, _, htable, hinitial, hpayload, hreduce, rfl,
        hmachine⟩
      exact ⟨table, initial, payload, reduce, htable, hinitial, hpayload, hreduce, hmachine⟩
  · rw [build_eq_error_iff, missing_ofCalls]

example : (ofCalls [.startingIn .red, .inspected (· < 0)] :
    MachineDraft Lamp Signal Pulse Int64).build =
      .error [.missingTable, .missingPayload, .missingReducer] := rfl

end MachineDraft

/-! ### Both builders -/

/-- **Builders report exactly what is missing.** For all calls on the draft of an edge, or of a
machine:

* something is built exactly if every required part was given at least once,
* it is made of the last value given for each part, of all conditions in the order of the calls, and
  of the last inspector,
* otherwise the required parts that were never given are reported, each once, in a fixed order, and
  there always are such parts,
* and to make the calls for different parts in another order changes nothing. If conditions given as
  guards change places with conditions given as tests, then they are evaluated in another order, but
  the report is the same, and so are all other parts of the edge and what it accepts. -/
theorem BuildError.exactly_what_is_missing :
    ReportsMissing (fun calls : List (EdgeCall φ κ ε σ) => (EdgeDraft.ofCalls calls).build)
      [.missingFromPhase, .missingToPhase, .missingSelector]
      EdgeCall.supplies? EdgeCall.Makes EdgeCall.part ∧
    (∀ calls calls' : List (EdgeCall φ κ ε σ), Rearranged EdgeCall.setter calls calls' →
      (∀ errors, (EdgeDraft.ofCalls calls).build = .error errors ↔
        (EdgeDraft.ofCalls calls').build = .error errors) ∧
      ∀ edge, (EdgeDraft.ofCalls calls).build = .ok edge →
        ∃ edge', (EdgeDraft.ofCalls calls').build = .ok edge' ∧
          edge'.source = edge.source ∧ edge'.target = edge.target ∧
          edge'.selector = edge.selector ∧
          ∀ payload event, edge'.accepts payload event = edge.accepts payload event) ∧
    ReportsMissing (fun calls : List (MachineCall φ κ ε σ) => (MachineDraft.ofCalls calls).build)
      [.missingTable, .missingInitialPhase, .missingPayload, .missingReducer]
      MachineCall.supplies? MachineCall.Makes MachineCall.setter :=
  ⟨EdgeDraft.reportsMissing, fun _ _ => EdgeDraft.build_rearranged, MachineDraft.reportsMissing⟩

end RoundTable
