import ConfigVars.Expansion
import ConfigVars.Registry.Assign
import ConfigVars.Registry.Report
import ConfigVars.Source.Assignment
import ConfigVars.Source.LogicalLine

/-!
# Reading variables from a file

The logical lines of a source are taken one after the other (`applyLine`): blank lines and comments
are left out, a line may be handled by a hook, and every other line sets a variable or is a problem.
When the source breaks off, the lines before are kept (`readSource`).
-/

namespace ConfigVars

open ConfigVars.Text Run

/-- The value of a variable that is named without one. -/
def flagValue : Value := .int 1

/-- Adds a problem to an outcome and reports it. -/
def note (call : Caller) (o : Outcome) (p : Problem) : Run Outcome := do
  report call p
  return o.withProblem p

/-- The outcome before anything has been read. -/
def Outcome.fresh (source : String) : Outcome := ⟨source, true, 0, []⟩

/-- The outcome that the answer of a hook stands for. -/
def Outcome.ofAnswer (source : String) : Value → Outcome
  | .outcome o => o
  | v => ⟨source, v.isTruthy, 0, []⟩

/-- Checks a value for a variable and sets it, or notes what is wrong with it. -/
def store (call : Caller) (o : Outcome) (name : String) (v : Value) (place : Place) :
    Run Outcome := do
  if ← validate call name v then
    let _ ← assign call name v
    return o.counted
  else note call o (.reading (.rejected name v) place)

/-- Applies an assignment to a defined variable. -/
def applyValue (call : Caller) (o : Outcome) (name : String) (value : Option (List Char))
    (place : Place) : Run Outcome := do
  let spec ← orProblem ((← registry).spec name)
  match value with
  | none =>
    if spec.argumentRequired then
      let _ ← reset call name
      return o.counted
    else store call o name flagValue place
  | some cs =>
    let v := Value.text (String.ofList cs)
    let r ← registry
    if spec.expand then store call o name (← orFailure (expand r r.environment v)) place
    else store call o name v place

/-- Applies the text of a line. -/
def applyText (call : Caller) (o : Outcome) (text : List Char) (place : Place) : Run Outcome := do
  match Assignment.ofLine text with
  | none => note call o (.reading (.unsplit "parse error") place)
  | some a =>
    let r ← registry
    let name := r.resolve (String.ofList a.name)
    if r.isDefined name then applyValue call o name a.value place
    else note call o (.reading (.undefinedVariable name) place)

/-- Whether a line hook has handled a line. -/
def handled (call : Caller) (hook : Option Callable) (source : String) (number : Nat)
    (text : List Char) : Run Bool :=
  match hook with
  | none => return false
  | some c => do
    return (← call c true [.text source, .int number, .text (String.ofList text)]).answer.isTruthy

/-- Whether a trimmed line is left out. -/
def isIgnored (text : List Char) : Bool := text.isEmpty || text.head? = some '#'

/-- Applies a logical line. -/
def applyLine (call : Caller) (hook : Option Callable) (source : String) (o : Outcome)
    (line : LogicalLine) : Run Outcome := do
  let text := trimWhile isBlank line.text
  if isIgnored text then return o
  if ← handled call hook source line.number text then return o
  applyText call o text { source := some source, line := some (line.number : Int) }

/-- Applies logical lines one after the other. -/
def applyLines (call : Caller) (hook : Option Callable) (source : String) :
    Outcome → List LogicalLine → Run Outcome
  | o, [] => return o
  | o, line :: rest => do applyLines call hook source (← applyLine call hook source o line) rest

/-- The problem of a source that cannot be read. -/
def unreadable (source reason : String) : Problem :=
  .reading (.unreadable reason) { source := some source }

/-- Applies the lines of a source.  Where they break off, a logical line that waits for its next
line is lost. -/
def applyReading (call : Caller) (hook : Option Callable) (source : String) (reading : Reading) :
    Run Outcome := do
  let (complete, waiting) := splitLogical (reading.lines.map String.toList)
  match reading.breakOff with
  | none => applyLines call hook source (.fresh source) (complete ++ waiting.toList)
  | some (.unreadable reason) =>
    let o ← applyLines call hook source (.fresh source) complete
    note call o.failed (unreadable source ("read failed: " ++ reason))
  | some (.failing f) =>
    let _ ← applyLines call hook source (.fresh source) complete
    throw f

/-- Reads variables from a source. -/
def readSource (call : Caller) (s : Source) : Run Outcome := do
  let settings := (← registry).settings
  match settings.fileParse with
  | some hook => return .ofAnswer s.name (← call hook true [s.toValue]).answer
  | none =>
    match s.read (← get).files with
    | .error (.failure f) => throw f
    | .error (.file fault) =>
      note call (Outcome.fresh s.name).failed (unreadable s.name fault.message)
    | .ok reading =>
      let o ← applyReading call settings.lineParse s.name reading
      detail ("Read " ++ s.name ++ ": " ++ toString o.applied ++ " variable(s) set, " ++
        toString o.problems.length ++ " error(s)")
      return o

end ConfigVars
