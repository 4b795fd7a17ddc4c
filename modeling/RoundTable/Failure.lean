import RoundTable.Table

/-!
# Failures

Why a step could not be resolved. A failure that shows that the parties are connected wrongly is
fatal: it ends the session in which it happens. All others are answers like any other.

## Main definitions

* `Failure`, `Failure.message`, `Failure.isFatal`: what goes wrong in a step
* `Failure.ofRefusal`: what a refusal of the table means for a step
-/

namespace RoundTable

/-- Why a step could not be resolved. -/
inductive Failure where
  /-- The step reached a side that cannot resolve it. -/
  | routing (reason : String)
  /-- The answer was of the wrong kind. -/
  | mismatch (expected found : String)
  /-- The table refused the event behind the step. -/
  | rejected (reason : String)
  /-- There was nothing to choose from. -/
  | noChoice (what : String)
  /-- The other side could not resolve the step. -/
  | remote (reason : String)
  /-- The other side is gone. -/
  | disconnected
  /-- The store of the table is closed. -/
  | storeClosed
  deriving DecidableEq

namespace Failure

/-- What is said about a failure. -/
def message : Failure → String
  | routing reason => "Routing contract violated: " ++ reason
  | mismatch expected found => "Expected " ++ expected ++ " result, got " ++ found
  | rejected reason => "Rejected by the table: " ++ reason
  | noChoice what => "No " ++ what ++ " available to choose"
  | remote reason => "Remote failure: " ++ reason
  | disconnected => "Session channel disconnected"
  | storeClosed => "Table state store is closed"

/-- Whether a failure ends the session in which it happens. -/
def isFatal : Failure → Bool
  | routing _ | mismatch _ _ | storeClosed => true
  | rejected _ | noChoice _ | remote _ | disconnected => false

/-- What a refusal of the table means for a step. -/
def ofRefusal : Refusal → Failure
  | .store _ => storeClosed
  | refusal => rejected refusal.message

end Failure

end RoundTable
