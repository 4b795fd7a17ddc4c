import RoundTable.Catalogue

/-!
# Phases and their history

A phase says which part of its work an automaton is in. A history is the list of passages from phase
to phase, oldest first, each with the tag of the event behind it and the time at which it happened.

## Main definitions

* `Phase`: catalogues some of whose constants are final
* `Instant`, `Instant.since`: points in time, and the time between two of them
* `Passage`, `History`: passages and their list
* `History.path`, `History.duration?`: the phases that were visited, and how long it took
-/

namespace RoundTable

/-- Types of phases. -/
class Phase (φ : Type) extends Catalogue φ where
  /-- Whether the work is over in a phase. -/
  isFinal : φ → Bool := fun _ => false

/-! ### Time -/

/-- The nanoseconds in a second. -/
def nanosPerSecond : Nat := 1000000000

/-- The seconds in a day without a leap second. -/
def secondsPerDay : Int := 86400

/-- A point in time. A leap second has no number of its own: it prolongs the last second of its
minute to twice the length. -/
structure Instant where
  /-- The number of the second, counted from the start of 1970 and negative before it. -/
  second : Int
  /-- The nanoseconds since the start of the second. -/
  nanos : Nat
  deriving DecidableEq

namespace Instant

/-- The start of 1970. -/
def epoch : Instant := ⟨0, 0⟩

/-- The first and the last second that the calendar reaches. -/
def secondsRange : Int × Int := (-8334601228800, 8210266876799)

/-- The instant of a Unix time, if the calendar reaches it. The nanoseconds count within a second;
the last one of a minute may have twice as many. -/
def ofUnix? (seconds : Int) (nanos : Nat) : Option Instant :=
  if secondsRange.1 ≤ seconds ∧ seconds ≤ secondsRange.2 ∧
      (nanos < nanosPerSecond ∨ (nanos < 2 * nanosPerSecond ∧ seconds % 60 = 59)) then
    some ⟨seconds, nanos⟩
  else none

/-- Whether an instant lies in a leap second. -/
def isLeap (time : Instant) : Bool := nanosPerSecond ≤ time.nanos

/-- The second of the day. -/
def daySecond (time : Instant) : Int := time.second % secondsPerDay

/-- The leap second, if any, that lies between two instants and that the numbers of their seconds do
not count. Days are counted apart from times of day, and every day as long as the others; so it is
the smaller one of the two times of day whose leap second lies between them. -/
def leapSecondsSince (later earlier : Instant) : Int :=
  if earlier.daySecond < later.daySecond ∧ earlier.isLeap then 1
  else if later.daySecond < earlier.daySecond ∧ later.isLeap then -1
  else 0

/-- The nanoseconds from one instant to another, negative if the other comes first. -/
def since (later earlier : Instant) : Int :=
  (later.second - earlier.second + later.leapSecondsSince earlier) * nanosPerSecond +
    (later.nanos - earlier.nanos)

end Instant

/-! ### Histories -/

/-- A passage from one phase to another. -/
structure Passage (φ κ : Type) where
  /-- The phase that was left. -/
  source : φ
  /-- The phase that was entered. -/
  target : φ
  /-- The tag of the event that passed. -/
  tag : κ
  /-- When it happened. -/
  time : Instant
  deriving DecidableEq

/-- Passages, oldest first. -/
structure History (φ κ : Type) where
  /-- The passages. -/
  passages : List (Passage φ κ)
  deriving DecidableEq

namespace History

variable {φ κ : Type}

/-- The history before anything has happened. -/
def empty : History φ κ := ⟨[]⟩

/-- The history with one more passage. -/
def push (history : History φ κ) (passage : Passage φ κ) : History φ κ :=
  ⟨history.passages ++ [passage]⟩

/-- How many passages there were. -/
def length (history : History φ κ) : Nat := history.passages.length

/-- The phases that were visited: where the first passage started, then where each one led. -/
def path (history : History φ κ) : List φ :=
  (history.passages.head?.map Passage.source).toList ++ history.passages.map Passage.target

/-- The nanoseconds from the first passage to the last one, if time has not run backwards between
them. -/
def duration? (history : History φ κ) : Option Nat := do
  let first ← history.passages.head?
  let last ← history.passages.getLast?
  let elapsed := last.time.since first.time
  if 0 ≤ elapsed then some elapsed.toNat else none

end History

end RoundTable
