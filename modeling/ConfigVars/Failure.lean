import ConfigVars.Value.Text

/-!
# Failures

A failure ends an operation that cannot go on (`Failure`), unlike a problem, which is reported and
left behind.  Where the fields of a record do not take their values, the failure lists every
rejected part with its path from the record down (`Rejection`).
-/

namespace ConfigVars

/-- A step down into a record. -/
inductive Step where
  | key (name : String)
  | index (n : Int)
  deriving DecidableEq, Repr

/-- A part of a record that does not take its value. -/
structure Rejection where
  path : List Step := []
  kind : String
  message : String
  deriving DecidableEq, Repr

/-- The rejection seen from one step further up. -/
def Rejection.under (step : Step) (r : Rejection) : Rejection := { r with path := step :: r.path }

/-- Why an operation cannot go on. -/
inductive Failure where
  /-- A problem that is not left behind. -/
  | problem (p : Problem)
  /-- A script fails. -/
  | script (message : String)
  /-- An argument of the wrong kind, or too many or too few of them. -/
  | wrongKind
  /-- A value of the right kind that cannot be used. -/
  | unusable (message : String)
  | overflow
  /-- Nothing stands at a place of a list. -/
  | outOfRange
  /-- A value that does not allow for a change. -/
  | unchangeable
  /-- Callables call each other without end. -/
  | endless
  | record (rejections : List Rejection)
  /-- A text that is no pattern. -/
  | pattern (message : String)

/-- The failure for a text that is no pattern. -/
def Failure.ofRefusal (text : String) (refusal : Pattern.Refusal) : Failure :=
  match refusal with
  | .malformed .. => .pattern (refusal.message text)
  | .tooManyRepetitions => .overflow
  | .numberTooLong _ | .conflictingAlphabets => .unusable (refusal.message text)

end ConfigVars
