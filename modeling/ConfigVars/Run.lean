import ConfigVars.Registry
import ConfigVars.Source

/-!
# Runs

Operations on a registry run in a world (`World`): the registry, the files, what has been recorded,
and the captures that are open.  A run (`Run`) changes the world, also when it ends in a failure.
Callables are called through a caller (`Caller`), which is a parameter of every operation, so that
what an operation does is said without saying what its callables do.
-/

namespace ConfigVars

/-- What a run leaves a record of. -/
inductive Event where
  /-- A problem that the recorder was given. -/
  | problem (p : Problem)
  /-- A message in the log, with its level. -/
  | log (level message : String)
  /-- A call of a script with its arguments. -/
  | call (script : String) (arguments : List Value)
  /-- A value that a script looked up. -/
  | got (name : String) (value : Value)

/-- A capture of problems that is open. -/
structure Capture where
  /-- The settings from before. -/
  settings : Settings
  problems : List Problem := []

/-- What operations work on. -/
structure World where
  registry : Registry
  files : FileTree := {}
  events : List Event := []
  /-- The captures that are open, innermost first. -/
  captures : List Capture := []
  /-- Whether the log takes details too. -/
  detailed : Bool := false

/-- An operation on a world, which may fail. -/
abbrev Run := ExceptT Failure (StateM World)

/-- What comes back from a call: the answer, and the arguments as the call has left them. -/
structure Reply where
  answer : Value
  arguments : List Value

/-- Calls a callable with arguments.  `withRegistry` tells whether the registry is passed in front
of them. -/
abbrev Caller := Callable → (withRegistry : Bool) → List Value → Run Reply

namespace Run

/-- The registry. -/
def registry : Run Registry := do return (← get).registry

/-- Changes the registry. -/
def update (f : Registry → Registry) : Run Unit :=
  modify fun w => { w with registry := f w.registry }

/-- Leaves a record. -/
def record (e : Event) : Run Unit := modify fun w => { w with events := w.events ++ [e] }

/-- Puts a message into the log. -/
def warn (message : String) : Run Unit := record (.log "WARNING" message)

/-- Puts a detail into the log. -/
def detail (message : String) : Run Unit := do
  if (← get).detailed then record (.log "DEBUG" message)

/-- Goes on with a result, or fails with a problem. -/
def orProblem {α : Type} : Except Problem α → Run α
  | .ok x => pure x
  | .error p => throw (.problem p)

/-- Goes on with a result, or fails. -/
def orFailure {α : Type} : Except Failure α → Run α
  | .ok x => pure x
  | .error f => throw f

end Run

end ConfigVars
