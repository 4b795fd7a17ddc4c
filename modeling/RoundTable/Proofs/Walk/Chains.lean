import RoundTable.Program.Chain
import RoundTable.Proofs.Walk.StepTrees

/-!
# Chains are in order

Nothing in a chain says that its values fit. But each way to put chains together keeps to this: a
chain that is done has no links left, and a chain with a step pending has links that lead, one after
another, from the answer to the type of the whole. A function that is called while a value is fed
through the links leads to a chain for which this holds as well, so its links can come before those
that are left. It does not matter whether any of this ends: values that never arrive fit, too.

To feed a value through links, and what comes of it through others, is to feed it through all of
them. This needs no care: it holds of all links, whether they fit or not.

## Main definitions

* `ChainLink.Joined`, `Chain.Sound`: links and chains in which everything fits
* `Chain.InOrder`: what this means to those who use a chain

## Main results

* `Behaviour.settle_induction`: what can be said of a value that is fed through links
* `Behaviour.IsSound.settle`: values that fit go through links that are joined
* `Behaviour.settle_append`: feeding a value through links, in two parts
* `Obtainable.sound`, `Chain.Sound.inOrder`: chains that can be made are in order
* `Queue.settle_links`, `Program.andThen_chain`: programs are such chains
* `Chain.in_order_throughout`: chains that can be made stay in order, and links can be split
-/

namespace RoundTable

universe u

variable {κ : Type u} [Kinds κ] {Function : κ → κ → Type u}

/-! ### Links and chains in which everything fits -/

@[simp] theorem ChainLink.spliced_eq (inner rest : List (ChainLink κ Function)) :
    ChainLink.spliced inner rest = inner ++ rest := by
  rw [spliced, List.foldl_reverse, List.foldr_cons_eq_append, List.map_id']

mutual

/-- A link leads from values of one type to chains of another. -/
inductive ChainLink.Leads : ChainLink κ Function → κ → κ → Prop where
  | bound {source target : κ} (function : Function source target) :
      ChainLink.Leads (.bound source target function) source target
  | mapped {source target : κ} (f : El source → Part (El target)) :
      ChainLink.Leads (.mapped source target f) source target
  | replaced {source target : κ} {node : Node κ} {rest : List (ChainLink κ Function)}
      (sound : Chain.Sound target ⟨node, rest⟩) :
      ChainLink.Leads (.replaced source target node rest) source target

/-- Each link takes what the one before it leads to. -/
inductive ChainLink.Joined : List (ChainLink κ Function) → κ → κ → Prop where
  | nil {kind : κ} : ChainLink.Joined [] kind kind
  | cons {source between target : κ} {link : ChainLink κ Function}
      {rest : List (ChainLink κ Function)} (first : ChainLink.Leads link source between)
      (others : ChainLink.Joined rest between target) :
      ChainLink.Joined (link :: rest) source target

/-- A chain ends in a value of a certain type: if nothing is left to do, this is its value, and no
links are left; if a step is pending, its links lead there from the answer. -/
inductive Chain.Sound : κ → Chain κ Function → Prop where
  | done {kind : κ} (result : El kind) : Chain.Sound kind ⟨.done ⟨kind, result⟩, []⟩
  | pending {kind : κ} {request : Request} {rest : List (ChainLink κ Function)}
      (joined : ChainLink.Joined rest (Kinds.ofExpectation request.expectation) kind) :
      Chain.Sound kind ⟨.pending request, rest⟩

end

theorem ChainLink.Leads.source_eq {link : ChainLink κ Function} {source target : κ}
    (h : link.Leads source target) : link.source = source := by
  cases h <;> rfl

theorem ChainLink.Joined.append {first second : List (ChainLink κ Function)}
    {source between target : κ} (h : Joined first source between)
    (h' : Joined second between target) :
    Joined (first ++ second) source target := by
  induction first generalizing source with
  | nil =>
    cases h
    exact h'
  | cons link first ih =>
    cases h with
    | cons hlink hrest => exact .cons hlink (ih hrest)

/-- Opening a chain waits for the answer to its step. -/
theorem Chain.awaited_eq (request : Request) : awaited request = request.expectation := by
  cases request <;> rfl

variable [DecidableEq κ]

theorem Erased.as_self (kind : κ) (value : El kind) :
    (⟨kind, value⟩ : Erased κ).as kind = .ok value := by
  rw [as, dif_pos rfl]

theorem Chain.opened_done (kind : κ) (result : El kind) (rest : List (ChainLink κ Function)) :
    (⟨.done ⟨kind, result⟩, rest⟩ : Chain κ Function).opened kind = .ok (.done result) := by
  calc (⟨.done ⟨kind, result⟩, rest⟩ : Chain κ Function).opened kind
      = ((⟨kind, result⟩ : Erased κ).as kind).map .done := rfl
    _ = .ok (.done result) := by rw [Erased.as_self]; rfl

/-- A chain that is to end in a value of a certain type is in order. -/
structure Chain.InOrder (kind : κ) (chain : Chain κ Function) : Prop where
  /-- If it is done, it has no links left, and its value is of that type. -/
  done {value : Erased κ} (h : chain.node = .done value) : chain.rest = [] ∧ value.kind = kind
  /-- It can be opened. -/
  opens (misfit : Misfit κ) : chain.opened kind ≠ .error misfit
  /-- With any answer, each link is fed only what it takes, even if this never ends. -/
  fits {behaviour : Behaviour κ Function} {request : Request} {next : Next κ Function}
    (honest : behaviour.IsHonest) (h : chain.opened kind = .ok (.pending request next))
    (answer : El next.awaits) {fed : Erased κ} {taker : ChainLink κ Function}
    (feeds : behaviour.Feeds ⟨next.awaits, answer⟩ next.rest fed taker) : fed.kind = taker.source
  /-- So no answer leads to a misfit. -/
  resumes {behaviour : Behaviour κ Function} {request : Request} {next : Next κ Function}
    (honest : behaviour.IsHonest) (h : chain.opened kind = .ok (.pending request next))
    (answer : El next.awaits) (misfit : Misfit κ) :
    .error misfit ∉ behaviour.resume next answer
  /-- Any link that takes values of that type can go on after it. -/
  goesOn (behaviour : Behaviour κ Function) {link : ChainLink κ Function} (h : link.source = kind)
    (misfit : Misfit κ) : .error misfit ∉ behaviour.andThen chain link

/-! ### Feeding links -/

namespace Behaviour

theorem call_self (behaviour : Behaviour κ Function) (link : ChainLink κ Function)
    (value : El link.source) :
    behaviour.call link ⟨link.source, value⟩ = (behaviour.follow link value).map .ok := by
  rw [call, Erased.as_self]

theorem mem_call (behaviour : Behaviour κ Function) (link : ChainLink κ Function)
    {value : El link.source} {chain : Chain κ Function} (h : chain ∈ behaviour.follow link value) :
    .ok chain ∈ behaviour.call link ⟨link.source, value⟩ := by
  rw [call_self]
  exact Part.mem_map _ h

variable {behaviour : Behaviour κ Function} {value result : Erased κ} {link : ChainLink κ Function}
  {inner rest links : List (ChainLink κ Function)} {request : Request} {misfit : Misfit κ}
  {outcome : Except (Misfit κ) (Chain κ Function)}

theorem settle_nil (behaviour : Behaviour κ Function) (value : Erased κ) :
    .ok ⟨.done value, []⟩ ∈ behaviour.settle value [] :=
  PFun.fix_stop (Part.mem_some _)

theorem settle_cons_misfit (h : .error misfit ∈ behaviour.call link value) :
    .error misfit ∈ behaviour.settle value (link :: rest) :=
  PFun.fix_stop (Part.mem_map (proceed rest) h)

theorem settle_cons_done (h : .ok ⟨.done result, inner⟩ ∈ behaviour.call link value) :
    behaviour.settle value (link :: rest) = behaviour.settle result (inner ++ rest) := by
  rw [← ChainLink.spliced_eq]
  exact PFun.fix_fwd_eq (Part.mem_map (proceed rest) h)

theorem settle_cons_pending (h : .ok ⟨.pending request, inner⟩ ∈ behaviour.call link value) :
    .ok ⟨.pending request, inner ++ rest⟩ ∈ behaviour.settle value (link :: rest) := by
  rw [← ChainLink.spliced_eq]
  exact PFun.fix_stop (Part.mem_map (proceed rest) h)

/-- What holds of a value that is fed through links, if it ends: it holds when no link is left, when
the first link leads to a misfit or to a pending step, and when it leads to a result, provided that
it holds of this result and what comes next. -/
theorem settle_induction
    {motive : Erased κ → List (ChainLink κ Function) → Except (Misfit κ) (Chain κ Function) → Prop}
    (nil : ∀ value, motive value [] (.ok ⟨.done value, []⟩))
    (misfit : ∀ {value link rest misfit}, .error misfit ∈ behaviour.call link value →
      motive value (link :: rest) (.error misfit))
    (done : ∀ {value link rest result inner outcome},
      .ok ⟨.done result, inner⟩ ∈ behaviour.call link value →
      outcome ∈ behaviour.settle result (inner ++ rest) →
      motive result (inner ++ rest) outcome → motive value (link :: rest) outcome)
    (pending : ∀ {value link rest request inner},
      .ok ⟨.pending request, inner⟩ ∈ behaviour.call link value →
      motive value (link :: rest) (.ok ⟨.pending request, inner ++ rest⟩))
    (h : outcome ∈ behaviour.settle value links) : motive value links outcome := by
  refine PFun.fixInduction' (C := fun state => motive state.1 state.2 outcome) h ?base ?step
  case base =>
    rintro ⟨value, _ | ⟨link, rest⟩⟩ hfeed
    · cases Part.mem_some_iff.mp hfeed
      exact nil value
    · obtain ⟨called, hcall, hproceed⟩ := (Part.mem_map_iff _).mp hfeed
      obtain misfit' | ⟨result | request, inner⟩ := called
      · cases hproceed
        exact misfit hcall
      · cases hproceed
      · cases hproceed
        rw [ChainLink.spliced_eq]
        exact pending hcall
  case step =>
    rintro ⟨value, _ | ⟨link, rest⟩⟩ next hnext hfeed ih
    · cases Part.mem_some_iff.mp hfeed
    · obtain ⟨called, hcall, hproceed⟩ := (Part.mem_map_iff _).mp hfeed
      obtain misfit' | ⟨result | request, inner⟩ := called
      · cases hproceed
      · cases hproceed
        rw [ChainLink.spliced_eq] at hnext ih
        exact done hcall hnext ih
      · cases hproceed

/-! ### Splitting links -/

/-- What comes of an outcome if links are put behind it: a result is fed through them, and a step
that is pending keeps them waiting. -/
def followOn (behaviour : Behaviour κ Function) (second : List (ChainLink κ Function)) :
    Except (Misfit κ) (Chain κ Function) → Part (Except (Misfit κ) (Chain κ Function))
  | .error misfit => .some (.error misfit)
  | .ok ⟨.done result, _⟩ => behaviour.settle result second
  | .ok ⟨.pending request, rest⟩ => .some (.ok ⟨.pending request, rest ++ second⟩)

/-- If the first links and then the second ones end, so do both together. -/
theorem settle_append_of_followOn {first second : List (ChainLink κ Function)}
    {between : Except (Misfit κ) (Chain κ Function)} (h : between ∈ behaviour.settle value first)
    (hsecond : outcome ∈ behaviour.followOn second between) :
    outcome ∈ behaviour.settle value (first ++ second) := by
  revert hsecond
  refine settle_induction (motive := fun value first between =>
    outcome ∈ behaviour.followOn second between →
      outcome ∈ behaviour.settle value (first ++ second)) ?nil ?misfit ?done ?pending h
  case nil =>
    intro value hsecond
    exact hsecond
  case misfit =>
    intro value link rest misfit hcall hsecond
    cases Part.mem_some_iff.mp hsecond
    exact settle_cons_misfit hcall
  case done =>
    intro value link rest result inner between hcall hsettle ih hsecond
    rw [List.cons_append, settle_cons_done hcall, ← List.append_assoc]
    exact ih hsecond
  case pending =>
    intro value link rest request inner hcall hsecond
    cases Part.mem_some_iff.mp hsecond
    rw [List.append_assoc]
    exact settle_cons_pending hcall

/-- If all links together end, so do the first ones, and then the second ones. -/
theorem followOn_of_settle_append {first second : List (ChainLink κ Function)}
    (h : outcome ∈ behaviour.settle value (first ++ second)) :
    ∃ between ∈ behaviour.settle value first, outcome ∈ behaviour.followOn second between := by
  generalize hlinks : first ++ second = links at h
  -- If there are no first links, what is to be shown is the assumption itself.
  refine settle_induction (motive := fun value links outcome =>
    outcome ∈ behaviour.settle value links → ∀ {first}, first ++ second = links →
      ∃ between ∈ behaviour.settle value first, outcome ∈ behaviour.followOn second between)
    ?nil ?misfit ?done ?pending h h hlinks
  case nil =>
    intro value h first hlinks
    obtain ⟨rfl, rfl⟩ := List.append_eq_nil_iff.mp hlinks
    exact ⟨_, h, h⟩
  case misfit =>
    intro value link rest misfit hcall h first hlinks
    obtain ⟨rfl, rfl⟩ | ⟨first, rfl, rfl⟩ := List.append_eq_cons_iff.mp hlinks
    · exact ⟨_, settle_nil behaviour value, h⟩
    · exact ⟨_, settle_cons_misfit hcall, Part.mem_some _⟩
  case done =>
    intro value link rest result inner outcome hcall hsettle ih h first hlinks
    obtain ⟨rfl, rfl⟩ | ⟨first, rfl, rfl⟩ := List.append_eq_cons_iff.mp hlinks
    · exact ⟨_, settle_nil behaviour value, h⟩
    · rw [settle_cons_done hcall]
      exact ih hsettle (List.append_assoc inner first second)
  case pending =>
    intro value link rest request inner hcall h first hlinks
    obtain ⟨rfl, rfl⟩ | ⟨first, rfl, rfl⟩ := List.append_eq_cons_iff.mp hlinks
    · exact ⟨_, settle_nil behaviour value, h⟩
    · rw [← List.append_assoc]
      exact ⟨_, settle_cons_pending hcall, Part.mem_some _⟩

/-- Feeding a value through links, in two parts. -/
theorem settle_append (behaviour : Behaviour κ Function) (value : Erased κ)
    (first second : List (ChainLink κ Function)) :
    behaviour.settle value (first ++ second) =
      (behaviour.settle value first).bind (behaviour.followOn second) := by
  refine Part.ext fun outcome => ⟨fun h => ?_, fun h => ?_⟩
  · exact Part.mem_bind_iff.mpr (followOn_of_settle_append h)
  · obtain ⟨between, hfirst, hsecond⟩ := Part.mem_bind_iff.mp h
    exact settle_append_of_followOn hfirst hsecond

/-! ### What fits, goes through -/

/-- Whatever a function leads to, if a call comes back, is sound. -/
def IsSound (behaviour : Behaviour κ Function) : Prop :=
  ∀ ⦃source target : κ⦄ (function : Function source target) value result,
    result ∈ behaviour.apply function value → Chain.Sound target result

variable {source target kind : κ} {chain : Chain κ Function}

/-- A link that is given a value of its type leads to what it should, if the call comes back. -/
theorem IsSound.call (hsound : behaviour.IsSound) (hlink : link.Leads source target)
    (value : El source) (h : outcome ∈ behaviour.call link ⟨source, value⟩) :
    ∃ chain, outcome = .ok chain ∧ Chain.Sound target chain := by
  obtain rfl := hlink.source_eq
  rw [call_self] at h
  obtain ⟨chain, hchain, rfl⟩ := (Part.mem_map_iff _).mp h
  refine ⟨chain, rfl, ?_⟩
  cases hlink with
  | bound function => exact hsound function value chain hchain
  | mapped f =>
    obtain ⟨result, -, rfl⟩ := (Part.mem_map_iff _).mp hchain
    exact .done result
  | replaced sound =>
    cases Part.mem_some_iff.mp hchain
    exact sound

/-- **Values that fit go through links that are joined.** -/
theorem IsSound.settle (hsound : behaviour.IsSound)
    (hlinks : ChainLink.Joined links value.kind target)
    (h : outcome ∈ behaviour.settle value links) :
    ∃ chain, outcome = .ok chain ∧ Chain.Sound target chain := by
  revert target
  refine settle_induction (motive := fun value links outcome =>
    ∀ {target}, ChainLink.Joined links value.kind target →
      ∃ chain, outcome = .ok chain ∧ Chain.Sound target chain) ?nil ?misfit ?done ?pending h
  case nil =>
    intro value target hlinks
    cases hlinks
    exact ⟨_, rfl, .done value.value⟩
  case misfit =>
    intro value link rest misfit hcall target hlinks
    cases hlinks with
    | cons hlink hrest =>
      obtain ⟨chain, hchain, -⟩ := hsound.call hlink value.value hcall
      cases hchain
  case done =>
    intro value link rest result inner outcome hcall hsettle ih target hlinks
    cases hlinks with
    | cons hlink hrest =>
      obtain ⟨chain, hchain, hinner⟩ := hsound.call hlink value.value hcall
      cases hchain
      cases hinner
      exact ih hrest
  case pending =>
    intro value link rest request inner hcall target hlinks
    cases hlinks with
    | cons hlink hrest =>
      obtain ⟨chain, hchain, hinner⟩ := hsound.call hlink value.value hcall
      cases hchain
      cases hinner with
      | pending hjoined => exact ⟨_, rfl, .pending (hjoined.append hrest)⟩

/-- Links that are joined are fed only what they take, also if this never ends. -/
theorem IsSound.feeds (hsound : behaviour.IsSound) {fed : Erased κ} {taker : ChainLink κ Function}
    (h : behaviour.Feeds value links fed taker)
    (hlinks : ChainLink.Joined links value.kind target) :
    fed.kind = taker.source := by
  induction h with
  | here =>
    cases hlinks with
    | cons hlink hrest => exact hlink.source_eq.symm
  | later hcall feeds ih =>
    cases hlinks with
    | cons hlink hrest =>
      obtain ⟨chain, hchain, hinner⟩ := hsound.call hlink _ hcall
      cases hchain
      cases hinner
      exact ih hrest

/-- Going on after a chain ends where the link leads to. -/
theorem IsSound.andThen (hsound : behaviour.IsSound) (hchain : Chain.Sound source chain)
    (hlink : link.Leads source target) (h : outcome ∈ behaviour.andThen chain link) :
    ∃ chain, outcome = .ok chain ∧ Chain.Sound target chain := by
  cases hchain with
  | done result => exact hsound.call hlink result h
  | pending hjoined =>
    cases Part.mem_some_iff.mp h
    exact ⟨_, rfl, .pending (hjoined.append (.cons hlink .nil))⟩

/-- A walk goes on with an answer to where the chain ends. -/
theorem IsSound.resume (hsound : behaviour.IsSound) (hchain : Chain.Sound kind chain)
    {next : Next κ Function} (hopened : chain.opened kind = .ok (.pending request next))
    {answer : El next.awaits} (h : outcome ∈ behaviour.resume next answer) :
    ∃ chain, outcome = .ok chain ∧ Chain.Sound kind chain := by
  cases hchain with
  | done result =>
    rw [Chain.opened_done] at hopened
    cases hopened
  | pending hjoined =>
    cases hopened
    rw [← Chain.awaited_eq] at hjoined
    exact hsound.settle hjoined h

end Behaviour

/-! ### Chains that can be made -/

section

/-- A behaviour under which no call comes back. -/
def Behaviour.silent : Behaviour κ Function where
  apply _ _ := .none

omit [DecidableEq κ] in
theorem Behaviour.silent_isSound : (silent : Behaviour κ Function).IsSound :=
  fun _ _ _ _ _ h => absurd h (Part.notMem_none _)

theorem Behaviour.silent_isHonest : (silent : Behaviour κ Function).IsHonest :=
  fun _ _ _ _ _ h => absurd h (Part.notMem_none _)

variable {kind : κ} {start chain : Chain κ Function}

/-- Chains that can be made are sound. -/
theorem Obtainable.sound (h : Obtainable kind chain) : Chain.Sound kind chain := by
  induction h with
  | done kind result => exact .done result
  | primitive request => exact .pending .nil
  | andThen comesBack first function h ih ihfirst =>
    obtain ⟨chain, hchain, hsound⟩ :=
      Behaviour.IsSound.andThen ih ihfirst (.bound function) h
    cases hchain
    exact hsound
  -- Changing a result calls no function, and neither does to go on with a chain that is there.
  | map first f h ih =>
    obtain ⟨chain, hchain, hsound⟩ := Behaviour.silent_isSound.andThen ih (.mapped f) h
    cases hchain
    exact hsound
  | followedBy first second h ih ihother =>
    obtain ⟨chain, hchain, hsound⟩ := Behaviour.silent_isSound.andThen ih (.replaced ihother) h
    cases hchain
    exact hsound
  | ofRequest request h =>
    cases Part.mem_some_iff.mp h
    exact .pending (.cons (.mapped _) .nil)
  | resume comesBack first hopened answer h ih ihfirst =>
    obtain ⟨chain, hchain, hsound⟩ :=
      Behaviour.IsSound.resume ih ihfirst hopened h
    cases hchain
    exact hsound

theorem Behaviour.IsHonest.isSound {behaviour : Behaviour κ Function} (h : behaviour.IsHonest) :
    behaviour.IsSound :=
  fun _ _ function value result hresult => (h function value result hresult).sound

/-- A walk of a chain that can be made comes to chains that can be made. -/
theorem Walk.obtainable (h : Obtainable kind start) (walked : Walk kind start chain) :
    Obtainable kind chain := by
  induction walked with
  | here => exact h
  | resume honest walked hopened answer hresume ih =>
    exact .resume honest ih hopened answer hresume

/-- **Sound chains are in order.** -/
theorem Chain.Sound.inOrder (h : Chain.Sound kind chain) : chain.InOrder kind where
  done hdone := by
    cases h with
    | done result =>
      cases hdone
      exact ⟨rfl, rfl⟩
    | pending hjoined => cases hdone
  opens misfit := by
    cases h with
    | done result =>
      rw [opened_done]
      exact nofun
    | pending hjoined => exact nofun
  fits honest hopened answer _ _ feeds := by
    cases h with
    | done result =>
      rw [opened_done] at hopened
      cases hopened
    | pending hjoined =>
      cases hopened
      rw [← awaited_eq] at hjoined
      exact honest.isSound.feeds feeds hjoined
  resumes honest hopened answer misfit hmisfit := by
    obtain ⟨chain, hchain, -⟩ := honest.isSound.resume h hopened hmisfit
    cases hchain
  goesOn behaviour link hsource misfit hmisfit := by
    subst hsource
    cases h with
    | done result =>
      have hcall : .error misfit ∈ behaviour.call link ⟨link.source, result⟩ := hmisfit
      rw [Behaviour.call_self] at hcall
      obtain ⟨chain, -, hchain⟩ := (Part.mem_map_iff _).mp hcall
      cases hchain
    | pending hjoined => cases Part.mem_some_iff.mp hmisfit

end

/-! ### Programs -/

namespace Queue

theorem append_assoc {α β γ δ : Type} :
    (first : Queue α β) → (second : Queue β γ) → (third : Queue γ δ) →
      (first.append second).append third = first.append (second.append third)
  | .nil, _, _ => rfl
  | .cons link rest, second, third => congrArg (Queue.cons link) (append_assoc rest second third)

theorem links_append {α β γ : Type} :
    (first : Queue α β) → (second : Queue β γ) →
      (first.append second).links = first.links ++ second.links
  | .nil, _ => rfl
  | .cons link rest, second => by
    rw [append, links, links, links_append rest second, List.cons_append]

/-- What comes of a program if a queue is put behind it. -/
def followOn {β γ : Type} (second : Queue β γ) : Program β → Program γ
  | .done result => second.settle result
  | .step request rest => .step request (rest.append second)

/-- **Feeding a value through a queue, in two parts.** -/
theorem settle_append {α β γ : Type} :
    (first : Queue α β) → (second : Queue β γ) → (value : α) →
      (first.append second).settle value = second.followOn (first.settle value)
  | .nil, second, value => by
    rw [append, settle, followOn]
  | .cons link rest, second, value => by
    rw [append, settle, settle]
    cases link value with
    | done result => exact settle_append rest second result
    | step request inner =>
      exact congrArg (Program.step request) (append_assoc inner rest second).symm

theorem call_chain [DecidableEq Type] {α β : Type} (next : α → Program β) (value : α) :
    .ok (next value).chain ∈ Continuation.behaviour.call (.bound α β next) ⟨α, value⟩ :=
  Continuation.behaviour.mem_call (.bound α β next) (Part.mem_some (next value).chain)

/-- To feed a value through a queue is to feed it through its links. -/
theorem settle_links [DecidableEq Type] {α β : Type} :
    (queue : Queue α β) → (value : α) →
      .ok (queue.settle value).chain ∈ Continuation.behaviour.settle ⟨α, value⟩ queue.links
  | .nil, value => by
    rw [links, settle]
    exact Behaviour.settle_nil Continuation.behaviour ⟨α, value⟩
  | .cons link rest, value => by
    have hcall := call_chain link value
    rw [links, settle]
    cases hlink : link value with
    | done result =>
      rw [hlink] at hcall
      rw [Behaviour.settle_cons_done hcall]
      exact settle_links rest result
    | step request inner =>
      rw [hlink] at hcall
      rw [Program.chain, links_append]
      exact Behaviour.settle_cons_pending hcall

/-- A queue can be put behind a step that is pending. -/
theorem obtainable [DecidableEq Type] {α β : Type} {request : Request}
    {rest : List (ChainLink Type Continuation)} (queue : Queue α β)
    (h : Obtainable α (⟨.pending request, rest⟩ : Chain Type Continuation)) :
    Obtainable β (⟨.pending request, rest ++ queue.links⟩ : Chain Type Continuation) := by
  match queue with
  | .nil =>
    rw [links, List.append_nil]
    exact h
  | .cons link others =>
    have hlink : Obtainable _ (⟨.pending request, rest ++ [.bound _ _ link]⟩ : Chain ..) :=
      .andThen Behaviour.silent_isHonest h link (Part.mem_some _)
    have hothers := others.obtainable hlink
    rw [List.append_assoc] at hothers
    exact hothers

end Queue

namespace Program

variable {α β : Type} [DecidableEq Type]

/-- **Programs are chains that can be made.** -/
theorem obtainable_chain (program : Program α) : Obtainable α program.chain := by
  cases program with
  | done result => exact .done α result
  | step request rest => exact rest.obtainable (.primitive request)

/-- To go on after a program is to go on after its chain. -/
theorem andThen_chain (program : Program α) (next : α → Program β) :
    .ok (program.andThen next).chain ∈
      Continuation.behaviour.andThen program.chain (.bound α β next) := by
  cases program with
  | done result => exact Queue.call_chain next result
  | step request rest =>
    rw [andThen, chain, chain, Queue.links_append]
    exact Part.mem_some _

end Program

/-! ### Throughout -/

/-- **Chains that can be made stay in order.** At each point of a walk, a chain that can be made has
no links left if it is done, and each link is fed only what it takes, so no value is ever found not
to fit. To feed a value through links is to feed it through the first ones, and the result, unless a
step is pending, through the others. Programs are such chains, and their queues are such links. -/
theorem Chain.in_order_throughout [DecidableEq Type] :
    (∀ {kind : κ} {start chain : Chain κ Function},
      Obtainable kind start → Walk kind start chain → chain.InOrder kind) ∧
    (∀ (behaviour : Behaviour κ Function) (value : Erased κ)
      (first second : List (ChainLink κ Function)), behaviour.settle value (first ++ second) =
        (behaviour.settle value first).bind (behaviour.followOn second)) ∧
    (∀ {α β : Type} (program : Program α) (next : α → Program β), Obtainable α program.chain ∧
      .ok (program.andThen next).chain ∈
        Continuation.behaviour.andThen program.chain (.bound α β next)) ∧
    ∀ {α β γ : Type} (first : Queue α β) (second : Queue β γ) (value : α),
      (first.append second).settle value = second.followOn (first.settle value) ∧
      .ok (first.settle value).chain ∈ Continuation.behaviour.settle ⟨α, value⟩ first.links :=
  ⟨fun h walked => (walked.obtainable h).sound.inOrder, Behaviour.settle_append,
    fun program next => ⟨program.obtainable_chain, program.andThen_chain next⟩,
    fun first second value => ⟨first.settle_append second value, first.settle_links value⟩⟩

/-- The name of a function that goes on to draw, whatever has been drawn. -/
inductive Redraw : Type → Type → Type 1 where
  | again : Redraw (List Card) (List Card)

namespace Redraw

/-- To draw, and to draw again. -/
def chain : Chain Type Redraw := ⟨.pending .drawCards, [.bound _ _ .again]⟩

/-- Who draws again, is to draw again after that. -/
def behaviour : Behaviour Type Redraw where
  apply _ _ := .some chain

variable [DecidableEq Type]

theorem obtainable : Obtainable (List Card) chain :=
  .andThen Behaviour.silent_isHonest (.primitive .drawCards) again (Part.mem_some _)

theorem behaviour_isHonest : behaviour.IsHonest := by
  intro source target function value result h
  obtain rfl := Part.mem_some_iff.mp h
  cases function
  exact obtainable

theorem call_again (drawn : List Card) :
    .ok chain ∈ behaviour.call (.bound _ _ again) ⟨List Card, drawn⟩ :=
  behaviour.mem_call (.bound _ _ again) (Part.mem_some chain)

end Redraw

open scoped Classical in
theorem Chain.in_order_throughout_redraw :
    Walk (List Card) Redraw.chain Redraw.chain ∧ Redraw.chain.InOrder (List Card) ∧
    .ok ⟨.pending .drawCards, [.bound _ _ .again, .bound _ _ .again]⟩ ∈
      Redraw.behaviour.settle ⟨List Card, []⟩ ([.bound _ _ .again] ++ [.bound _ _ .again]) := by
  obtain ⟨hinOrder, hsplit, -⟩ := @Chain.in_order_throughout Type _ Redraw _ _
  have hfirst : .ok Redraw.chain ∈
      Redraw.behaviour.settle ⟨List Card, []⟩ [.bound _ _ .again] :=
    Behaviour.settle_cons_pending (Redraw.call_again [])
  have hwalk : Walk (List Card) Redraw.chain Redraw.chain :=
    .resume Redraw.behaviour_isHonest .here rfl [] hfirst
  refine ⟨hwalk, hinOrder Redraw.obtainable hwalk, ?_⟩
  rw [hsplit]
  exact Part.mem_bind hfirst (Part.mem_some _)

end RoundTable
