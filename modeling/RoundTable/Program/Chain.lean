import Mathlib.Data.PFun
import RoundTable.Program.Basic

/-!
# Chains

Seen from inside, a program is a chain: a node, and links that wait for it. None of them shows a
type. A value in a chain only carries the name of its type along; a link takes values of one type,
and it has to make sure of that before it goes on. If a value does not fit, there is nothing it
could do. That all values fit, that a node that is done has no links left, and that the last link
leads to the type of the whole program, is not to be seen in a chain: it follows from the way in
which chains are put together.

What a link makes of a value is up to whoever has written the function in it. A function is a name
here; what it does when it is called is a behaviour, and a call may also not come back. So chains
need not come to an end: a function may lead to a chain in which its own name occurs again.

## Main definitions

* `Kinds`, `Erased`, `Erased.as`: names of types, and values that carry them
* `Chain`, `Node`, `ChainLink`: chains
* `Behaviour.feed`, `Behaviour.settle`: feeding a value to a link, and through all of them
* `Behaviour.andThen`, `Behaviour.map`, `Behaviour.followedBy`, `Behaviour.ofRequest`: putting
  chains together
* `Chain.opened`, `Behaviour.resume`: opening a chain, and going on with an answer
* `Behaviour.Feeds`: the values that are fed to links
* `Obtainable`, `Walk`: chains that can be made, and what a walk of one comes to
* `Program.chain`, `Queue.links`: programs and their queues, seen from inside
-/

namespace RoundTable

universe u

/-! ### Values -/

/-- Names of types. -/
class Kinds (κ : Type u) where
  /-- The values of a type. -/
  El : κ → Type
  /-- The name of the type of what somebody waits for. -/
  ofExpectation : Expectation → κ
  /-- It is the name of that type. -/
  el_ofExpectation (expectation : Expectation) : El (ofExpectation expectation) = expectation.Value

export Kinds (El)

variable {κ : Type u} [Kinds κ]

/-- A value that carries the name of its type. -/
structure Erased (κ : Type u) [Kinds κ] where
  /-- The name of its type. -/
  kind : κ
  /-- The value. -/
  value : El kind

/-- A value was not of the type that was expected. -/
structure Misfit (κ : Type u) where
  /-- What was expected. -/
  expected : κ

/-- A value taken for one of a certain type. -/
def Erased.as [DecidableEq κ] (value : Erased κ) (kind : κ) : Except (Misfit κ) (El kind) :=
  if h : value.kind = kind then .ok (h ▸ value.value) else .error ⟨kind⟩

/-! ### Chains -/

/-- What a program has come to. -/
inductive Node (κ : Type u) [Kinds κ] where
  /-- Nothing is left to do. -/
  | done (value : Erased κ)
  /-- A step is pending. -/
  | pending (request : Request)

/-- A continuation. -/
inductive ChainLink (κ : Type u) [Kinds κ] (Function : κ → κ → Type u) : Type u where
  /-- Goes on with what a function leads to. -/
  | bound (source target : κ) (function : Function source target)
  /-- Changes the result; the change may not come to an end. -/
  | mapped (source target : κ) (f : El source → Part (El target))
  /-- Goes on with a chain that is there already, whatever the result. -/
  | replaced (source target : κ) (node : Node κ) (rest : List (ChainLink κ Function))

/-- A node and the links that wait for it. -/
structure Chain (κ : Type u) [Kinds κ] (Function : κ → κ → Type u) where
  /-- What it has come to. -/
  node : Node κ
  /-- The continuations, the next one first. -/
  rest : List (ChainLink κ Function)

variable {Function : κ → κ → Type u}

/-- The type of the values that a link takes. -/
def ChainLink.source : ChainLink κ Function → κ
  | bound source _ _ | mapped source _ _ | replaced source _ _ _ => source

/-- Puts links in front of others, the last one first. -/
def ChainLink.spliced (inner rest : List (ChainLink κ Function)) : List (ChainLink κ Function) :=
  inner.reverse.foldl (fun rest link => link :: rest) rest

/-- The rest of a chain that was opened, and the type of the answer that it waits for. -/
structure Next (κ : Type u) [Kinds κ] (Function : κ → κ → Type u) where
  /-- The type of the answer. -/
  awaits : κ
  /-- The continuations. -/
  rest : List (ChainLink κ Function)

/-- A chain that was opened. -/
inductive Opened (κ : Type u) [Kinds κ] (Function : κ → κ → Type u) (kind : κ) where
  /-- Nothing is left to do. -/
  | done (result : El kind)
  /-- A step is pending. -/
  | pending (request : Request) (next : Next κ Function)

namespace Chain

/-- The chain with nothing left to do. -/
def done (kind : κ) (result : El kind) : Chain κ Function := ⟨.done ⟨kind, result⟩, []⟩

/-- The chain of one step. -/
def primitive (request : Request) : Chain κ Function := ⟨.pending request, []⟩

/-- What has to be answered if a chain that was opened is to go on. -/
def awaited : Request → Expectation
  | .checkStumbling => .optionalCard
  | .selectResponse => .optionalCard
  | .playCard => .card
  | .selectPlayer => .player
  | .selectAttack => .bug
  | .selectDiscardCards _ => .cards
  | .getGameState => .state
  | .drawCards => .cards
  | .attackPlayer _ _ => .outcome
  | .defendAttack _ => .outcome
  | .handleStumbling _ => .outcome
  | .discard _ => .unit

/-- Opens a chain that is to end in a value of a certain type. -/
def opened [DecidableEq κ] (chain : Chain κ Function) (kind : κ) :
    Except (Misfit κ) (Opened κ Function kind) :=
  match chain.node with
  | .done value => (value.as kind).map .done
  | .pending request => .ok (.pending request ⟨Kinds.ofExpectation (awaited request), chain.rest⟩)

end Chain

/-! ### Calls -/

/-- What functions do when they are called. A call may not come back. -/
structure Behaviour (κ : Type u) [Kinds κ] (Function : κ → κ → Type u) where
  /-- The chain to which a function leads. -/
  apply {source target : κ} (function : Function source target) (value : El source) :
    Part (Chain κ Function)

namespace Behaviour

variable [DecidableEq κ] (behaviour : Behaviour κ Function)

/-- What a link makes of a value of its type. -/
def follow : (link : ChainLink κ Function) → El link.source → Part (Chain κ Function)
  | .bound _ _ function, value => behaviour.apply function value
  | .mapped _ target f, value => (f value).map (.done target)
  | .replaced _ _ node rest, _ => .some ⟨node, rest⟩

/-- What a link makes of a value, if it fits. Nothing, if the call does not come back. -/
def call (link : ChainLink κ Function) (value : Erased κ) :
    Part (Except (Misfit κ) (Chain κ Function)) :=
  match value.as link.source with
  | .error misfit => .some (.error misfit)
  | .ok value => (behaviour.follow link value).map .ok

/-- How it goes on once a link has been called: it ends with a misfit or with a pending step; a
result goes on to the next link. The links of what the call has led to come first. -/
def proceed (rest : List (ChainLink κ Function)) : Except (Misfit κ) (Chain κ Function) →
    Except (Misfit κ) (Chain κ Function) ⊕ Erased κ × List (ChainLink κ Function)
  | .error misfit => .inl (.error misfit)
  | .ok ⟨.done result, inner⟩ => .inr (result, ChainLink.spliced inner rest)
  | .ok ⟨.pending request, inner⟩ => .inl (.ok ⟨.pending request, ChainLink.spliced inner rest⟩)

/-- Feeds a value to the first link. If no link is left, it ends. -/
def feed : Erased κ × List (ChainLink κ Function) →.
    Except (Misfit κ) (Chain κ Function) ⊕ Erased κ × List (ChainLink κ Function)
  | (value, []) => .some (.inl (.ok ⟨.done value, []⟩))
  | (value, link :: rest) => (behaviour.call link value).map (proceed rest)

/-- Feeds a value through links until a step is pending or no link is left. Nothing, if this never
ends. -/
def settle (value : Erased κ) (links : List (ChainLink κ Function)) :
    Part (Except (Misfit κ) (Chain κ Function)) :=
  behaviour.feed.fix (value, links)

/-! ### Putting chains together -/

/-- Goes on with a link after a chain. -/
def andThen (chain : Chain κ Function) (link : ChainLink κ Function) :
    Part (Except (Misfit κ) (Chain κ Function)) :=
  match chain.node with
  | .done value => behaviour.call link value
  | .pending request => .some (.ok ⟨.pending request, chain.rest ++ [link]⟩)

/-- Changes the result of a chain. -/
def map {source target : κ} (f : El source → Part (El target)) (chain : Chain κ Function) :
    Part (Except (Misfit κ) (Chain κ Function)) :=
  behaviour.andThen chain (.mapped source target f)

/-- Runs one chain for its steps only and then another one. -/
def followedBy (source target : κ) (chain other : Chain κ Function) :
    Part (Except (Misfit κ) (Chain κ Function)) :=
  behaviour.andThen chain (.replaced source target other.node other.rest)

/-- The chain of one step that ends in the reply to it. -/
def ofRequest (request : Request) : Part (Except (Misfit κ) (Chain κ Function)) :=
  behaviour.map (fun answer : El (Kinds.ofExpectation request.expectation) =>
    .some (cast (Kinds.el_ofExpectation .anyReply).symm
      (request.expectation.wrap (cast (Kinds.el_ofExpectation request.expectation) answer))))
    (.primitive request)

/-- Goes on with an answer. -/
def resume (next : Next κ Function) (answer : El next.awaits) :
    Part (Except (Misfit κ) (Chain κ Function)) :=
  behaviour.settle ⟨next.awaits, answer⟩ next.rest

/-- The values that are fed to links, when a value is fed through a list of them. -/
inductive Feeds :
    Erased κ → List (ChainLink κ Function) → Erased κ → ChainLink κ Function → Prop where
  /-- The value itself is fed to the first link. -/
  | here {value : Erased κ} {link : ChainLink κ Function} {rest : List (ChainLink κ Function)} :
      Feeds value (link :: rest) value link
  /-- The first link leads to a result, and this is fed through what comes next. -/
  | later {value result fed : Erased κ} {link taker : ChainLink κ Function}
      {inner rest : List (ChainLink κ Function)}
      (h : .ok ⟨.done result, inner⟩ ∈ behaviour.call link value)
      (feeds : Feeds result (ChainLink.spliced inner rest) fed taker) :
      Feeds value (link :: rest) fed taker

end Behaviour

/-! ### Chains that can be made -/

variable [DecidableEq κ]

/-- Chains that end in a value of a certain type, as they can be made: from nothing left to do and
single steps, by going on, by changing results, and by opening chains and answering. Each function
that is called meanwhile, if the call comes back, leads to such a chain, too. -/
inductive Obtainable : κ → Chain κ Function → Prop where
  | done (kind : κ) (result : El kind) : Obtainable kind (.done kind result)
  | primitive (request : Request) :
      Obtainable (Kinds.ofExpectation request.expectation) (.primitive request)
  | andThen {behaviour : Behaviour κ Function} {source target : κ} {chain result : Chain κ Function}
      (comesBack : ∀ ⦃source target : κ⦄ (function : Function source target) value result,
        result ∈ behaviour.apply function value → Obtainable target result)
      (first : Obtainable source chain) (function : Function source target)
      (h : .ok result ∈ behaviour.andThen chain (.bound source target function)) :
      Obtainable target result
  | map {behaviour : Behaviour κ Function} {source target : κ} {chain result : Chain κ Function}
      (first : Obtainable source chain) (f : El source → Part (El target))
      (h : .ok result ∈ behaviour.map f chain) :
      Obtainable target result
  | followedBy {behaviour : Behaviour κ Function} {source target : κ}
      {chain other result : Chain κ Function}
      (first : Obtainable source chain) (second : Obtainable target other)
      (h : .ok result ∈ behaviour.followedBy source target chain other) :
      Obtainable target result
  | ofRequest {behaviour : Behaviour κ Function} {result : Chain κ Function} (request : Request)
      (h : .ok result ∈ behaviour.ofRequest request) :
      Obtainable (Kinds.ofExpectation .anyReply) result
  | resume {behaviour : Behaviour κ Function} {kind : κ} {chain result : Chain κ Function}
      {request : Request} {next : Next κ Function}
      (comesBack : ∀ ⦃source target : κ⦄ (function : Function source target) value result,
        result ∈ behaviour.apply function value → Obtainable target result)
      (first : Obtainable kind chain) (hopened : chain.opened kind = .ok (.pending request next))
      (answer : El next.awaits) (h : .ok result ∈ behaviour.resume next answer) :
      Obtainable kind result

/-- Whatever a function leads to, if a call comes back, can be made. -/
def Behaviour.IsHonest (behaviour : Behaviour κ Function) : Prop :=
  ∀ ⦃source target : κ⦄ (function : Function source target) value result,
    result ∈ behaviour.apply function value → Obtainable target result

/-- What a walk of a chain comes to, whatever the answers. -/
inductive Walk (kind : κ) (start : Chain κ Function) : Chain κ Function → Prop where
  /-- The walk has just begun. -/
  | here : Walk kind start start
  /-- The pending step has been answered. -/
  | resume {behaviour : Behaviour κ Function} {chain result : Chain κ Function} {request : Request}
      {next : Next κ Function} (honest : behaviour.IsHonest) (walked : Walk kind start chain)
      (hopened : chain.opened kind = .ok (.pending request next)) (answer : El next.awaits)
      (h : .ok result ∈ behaviour.resume next answer) :
      Walk kind start result

/-! ### Programs as chains -/

/-- Types are names of themselves. -/
instance : Kinds Type where
  El α := α
  ofExpectation := Expectation.Value
  el_ofExpectation _ := rfl

/-- What a queue is made of. -/
abbrev Continuation (source target : Type) : Type 1 := source → Program target

/-- The links of a queue. -/
def Queue.links {α β : Type} : Queue α β → List (ChainLink Type Continuation)
  | .nil => []
  | .cons first rest => .bound _ _ first :: rest.links

/-- A program, seen from inside. -/
def Program.chain {α : Type} : Program α → Chain Type Continuation
  | .done result => .done α result
  | .step request rest => ⟨.pending request, rest.links⟩

/-- To call a continuation is to apply it, and this comes back. -/
def Continuation.behaviour : Behaviour Type Continuation where
  apply function value := .some (function value).chain

end RoundTable
