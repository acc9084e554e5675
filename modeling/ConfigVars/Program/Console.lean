import ConfigVars.Program.Check
import ConfigVars.Text.Quoted

/-!
# The console program

The console program has one command, `check`, with options in front of its arguments
(`Console.run`).  Options that the command does not know count as arguments.  What is wrong with the
use of the program is told with a hint, or by itself when an option lacks its value.
-/

namespace ConfigVars.Console

open ConfigVars.Text

/-- What the program prints, and how it ends. -/
structure Result where
  exitCode : Nat
  output : List String := []
  errors : List String := []
  deriving Repr

/-- A part of the program that arguments are for. -/
inductive Part where
  | whole
  | check
  deriving DecidableEq, Repr

/-- How a part of the program is called. -/
def Part.path : Part → String
  | .whole => "appconfig"
  | .check => "appconfig check"

/-- What a part of the program takes. -/
def Part.usage : Part → String
  | .whole => "[OPTIONS] COMMAND [ARGS]..."
  | .check => "[OPTIONS] [ARGS]..."

/-- Ends the program with an error in the use of a part. -/
def misuse (part : Part) (message : String) : Result where
  exitCode := 2
  errors :=
    ["Usage: " ++ part.path ++ " " ++ part.usage,
     "Try '" ++ part.path ++ " --help' for help.",
     "",
     "Error: " ++ message]

/-- Ends the program with an error in the use of an option. -/
def optionMisuse (message : String) : Result := { exitCode := 2, errors := ["Error: " ++ message] }

/-- Splits an argument at its first equals sign. -/
def splitValue (argument : String) : String × Option String :=
  let cs := argument.toList
  match cs.dropWhile (· ≠ '=') with
  | [] => (argument, none)
  | _ :: value => (String.ofList (cs.takeWhile (· ≠ '=')), some (String.ofList value))

/-- Whether an argument has the form of an option. -/
def isOption (argument : String) : Bool :=
  argument.toList.head? = some '-' && argument.length ≠ 1

/-- Whether an argument has the form of an option with a long name. -/
def isLong (argument : String) : Bool := "--".isPrefixOf argument

/-- The options of the command that take a value, with what a value does. -/
def valueOptions : List (String × (Check → String → Check)) :=
  [("--file", fun c v => { c with file := some v }),
   ("--var", fun c v => { c with descriptions := c.descriptions ++ [v] }),
   ("--flag", fun c v => { c with flags := c.flags ++ [v] }),
   ("--cmd-env", fun c v => { c with cmdEnv := some v })]

/-- What the options of the command ask for: a check, or an explanation of the command. -/
structure Request where
  check : Check := { descriptions := [], flags := [] }
  wantsHelp : Bool := false

/-- Adds arguments to a request. -/
def Request.withArguments (q : Request) (arguments : List String) : Request :=
  { q with check := { q.check with arguments := q.check.arguments ++ arguments.map .text } }

/-- Reads the options of the command. -/
def readOptions (q : Request) : List String → Except Result Request
  | [] => .ok q
  | argument :: rest =>
    let (name, value) := splitValue argument
    if argument = "--" then .ok (q.withArguments rest)
    else if !isOption argument then .ok (q.withArguments (argument :: rest))
    else if name = "--case-sensitive" || name = "--help" then
      if value.isSome then
        .error (optionMisuse ("Option " ++ quoted name ++ " does not take a value."))
      else if name = "--help" then readOptions { q with wantsHelp := true } rest
      else readOptions { q with check := { q.check with caseSensitive := true } } rest
    else
      match valueOptions.lookup name with
      | none => readOptions (q.withArguments [argument]) rest
      | some apply =>
        match value with
        | some v => readOptions { q with check := apply q.check v } rest
        | none =>
          match rest with
          | v :: rest' => readOptions { q with check := apply q.check v } rest'
          | [] => .error (optionMisuse ("Option " ++ quoted name ++ " requires an argument."))

/-- The lines that tell the values of the variables and the arguments that are left. -/
def reportLines (r : Check.Report) : List String :=
  let values := r.registry.toList.map fun (name, v) =>
    name ++ " = " ++ (match v with | .nothing => "<none>" | v => v.toText)
  let remaining := " ".intercalate (r.remaining.map Value.toText)
  values ++ if r.remaining.isEmpty then [] else ["remaining: " ++ remaining]

/-- Runs the command. -/
def check (environment : Environment) (files : FileTree) (arguments : List String) :
    Except Failure Result :=
  match readOptions {} arguments with
  | .error misused => .ok misused
  | .ok q =>
    if q.wantsHelp then .ok { exitCode := 0 }
    else
      match q.check.file.map fun file => (file, files.openFile file) with
      | some (file, .error .isDirectory) =>
        let text := "Invalid value for '--file': File " ++ quoted file ++ " is a directory."
        .ok (misuse .check text)
      | _ =>
        (q.check.report environment files).map fun r =>
          { exitCode := if r.problems.isEmpty then 0 else 1
            output := reportLines r
            errors := r.problems.map fun p => "Error: " ++ p.message }

/-- The error for an option that the program as a whole does not know. -/
def unknownOption (argument : String) : Result :=
  let name := (splitValue argument).1
  let shown := if isLong argument then name else String.ofList (argument.toList.take 2)
  misuse .whole ("No such option " ++ quoted shown ++ ".")

/-- What is wrong with the options of the program in front of its command, or what follows them. -/
def commandOf : List String → Except Result (List String)
  | [] => .ok []
  | argument :: rest =>
    if argument = "--" then .ok rest
    else if isOption argument then
      if argument = "--help" then .error { exitCode := 0 }
      else if (splitValue argument).1 = "--help" then
        .error (optionMisuse "Option '--help' does not take a value.")
      else .error (unknownOption argument)
    else .ok (argument :: rest)

/-- Runs the program. -/
def run (environment : Environment) (files : FileTree) (arguments : List String) :
    Except Failure Result :=
  if arguments.isEmpty then .ok { exitCode := 2 }
  else
    match commandOf arguments with
    | .error result => .ok result
    | .ok [] => .ok (misuse .whole "Missing command.")
    | .ok (command :: rest) =>
      if command = "check" then check environment files rest
      else
        match commandOf (command :: rest) with
        | .error result => .ok result
        | .ok _ => .ok (misuse .whole ("No such command " ++ quoted command ++ "."))

end ConfigVars.Console
