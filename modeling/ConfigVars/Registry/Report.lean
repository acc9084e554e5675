import ConfigVars.Run

/-!
# Reporting problems

A problem goes to the error sink of the registry, or into the log if there is none (`report`).
Inside a capture (`openCapture`, `closeCapture`) the sink is the innermost list, and the settings
from before come back with the end of the capture.
-/

namespace ConfigVars

open Run

/-- Reports a problem. -/
def report (call : Caller) (p : Problem) : Run Unit := do
  match (← registry).settings.error with
  | some sink =>
    let _ ← call sink false [.problem p]
  | none => warn p.message

/-- Reports some problems, one after the other. -/
def reportAll (call : Caller) : List Problem → Run Unit
  | [] => return ()
  | p :: rest => do
    report call p
    reportAll call rest

/-- From here on problems go to a list. -/
def openCapture : Run Unit :=
  modify fun w =>
    let settings := w.registry.settings
    { w with
      registry := { w.registry with settings := { settings with error := some .collector } }
      captures := { settings } :: w.captures }

/-- Ends the innermost capture and gives its problems. -/
def closeCapture : Run (List Problem) := do
  let w ← get
  match w.captures with
  | [] => return []
  | capture :: outer =>
    set { w with
          registry := { w.registry with settings := capture.settings }
          captures := outer }
    return capture.problems

/-- Runs an operation inside a capture, which ends with it, also when it fails. -/
def capturing {α : Type} (operation : Run α) : Run (Except Failure α × List Problem) := do
  openCapture
  let result ← (try return .ok (← operation) catch f => return .error f : Run (Except Failure α))
  return (result, ← closeCapture)

end ConfigVars
