import ConfigVars.Calling
import ConfigVars.Ingestion.CommandLine
import ConfigVars.Registry.Create

/-!
# Checking files and arguments

A check declares variables from short descriptions, reads a file and arguments, and keeps every
problem (`Check.run`).  A variable that takes values is described by its name or by `NAME=DEFAULT`,
and a flag by its name.
-/

namespace ConfigVars

/-- What is to be checked. -/
structure Check where
  /-- The descriptions of the variables that take values. -/
  descriptions : List String
  flags : List String
  file : Option String := none
  arguments : List Value := []
  caseSensitive : Bool := false
  cmdEnv : Option String := none

namespace Check

/-- The name and the default in the description of a variable. -/
def splitDescription (description : String) : String × Option String :=
  let cs := description.toList
  let value := (cs.dropWhile (· ≠ '=')).drop 1
  (String.ofList (cs.takeWhile (· ≠ '=')),
   if value.isEmpty then none else some (String.ofList value))

/-- A text that may be missing, as a value. -/
def optionalText (s : Option String) : Value := (s.map .text).getD .nothing

/-- Declares the variables that take values. -/
def declareVariables (call : Caller) : List String → Run Unit
  | [] => return ()
  | description :: rest => do
    let (name, value) := splitDescription description
    let _ ← define call name []
      [("default", optionalText value), ("argument_required", .bool true),
       ("command_triggers", .bool true)]
    declareVariables call rest

/-- Declares the flags. -/
def declareFlags (call : Caller) : List String → Run Unit
  | [] => return ()
  | name :: rest => do
    let _ ← define call name [] [("command_triggers", .bool true)]
    declareFlags call rest

/-- The options of the registry of a check. -/
def options (c : Check) : List (Value × Value) :=
  [(.text "case_sensitive", .bool c.caseSensitive), (.text "cmd_env", optionalText c.cmdEnv),
   (.text "error", .callable .collector)]

/-- Runs a check, and gives the arguments that are left. -/
def run (call : Caller) (environment : Environment) (c : Check) : Run (List Value) := do
  start call environment .none c.options
  declareVariables call c.descriptions
  declareFlags call c.flags
  if let some file := c.file then
    let _ ← readSource call (.path file)
  return (← readArguments call c.arguments).1

/-- The world in which a check starts: its problems are captured. -/
def world (environment : Environment) (files : FileTree) : World :=
  { registry := { environment }, files, captures := [{ settings := {} }] }

/-- What comes of a check. -/
structure Report where
  registry : Registry
  remaining : List Value
  problems : List Problem

/-- The report of a check. -/
def report (environment : Environment) (files : FileTree) (c : Check) : Except Failure Report :=
  let (result, w) := (c.run .standard environment).run.run (world environment files)
  result.map fun remaining =>
    { registry := w.registry, remaining, problems := w.captures.flatMap Capture.problems }

end Check

end ConfigVars
