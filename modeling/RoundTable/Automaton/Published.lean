/-!
# Published values

A value that is replaced from time to time, in front of readers who look when they please. Each
publication raises the revision, equal value or not, so that a reader can tell whether anything was
published since the last look.

## Main definitions

* `Published`, `Published.publish`: a value with its revision
* `Reader`, `Reader.hasNews`: what a reader has seen
-/

namespace RoundTable

/-- A value and how often it has been published after the first time. -/
structure Published (α : Type) where
  /-- The latest value. -/
  value : α
  /-- The number of publications after the first. -/
  revision : Nat

namespace Published

variable {α : Type}

/-- The first publication. -/
def first (value : α) : Published α := ⟨value, 0⟩

/-- Publishes a new value. -/
def publish (published : Published α) (value : α) : Published α :=
  ⟨value, published.revision + 1⟩

end Published

/-- A reader of published values. -/
structure Reader where
  /-- The revision of the value that was seen last. -/
  seen : Nat

namespace Reader

variable {α : Type}

/-- A reader who knows the present value. -/
def upToDate (published : Published α) : Reader := ⟨published.revision⟩

/-- A reader who knows the first value only. -/
def fromStart : Reader := ⟨0⟩

/-- Whether anything was published since the reader looked. -/
def hasNews (reader : Reader) (published : Published α) : Bool :=
  reader.seen != published.revision

end Reader

end RoundTable
