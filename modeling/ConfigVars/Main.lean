import ConfigVars.Program.Console

/-!
# The console program, run

The program takes its environment and the one file that it may read from the system, and prints the
result of `Console.run`.
-/

namespace ConfigVars

open ConfigVars.Text

/-- The variables of the process in the form in which the system lists them. -/
def variablesOf (bytes : List UInt8) : Table String String :=
  let entries := (bytes.splitOn 0).map fun entry => String.ofList (Utf8.decode entry).1
  Table.ofList (entries.filterMap fun entry =>
    match Console.splitValue entry with
    | (name, some value) => some (name, value)
    | (_, none) => none)

/-- The path of the file that the arguments name. -/
def namedFile? : List String → Option String
  | "check" :: rest =>
    match Console.readOptions {} rest with
    | .ok q => q.check.file
    | .error _ => none
  | _ => none

/-- The part of the file tree that a path leads to. -/
def loadFile (path : String) : IO FileTree := do
  let names := FileTree.namesOf path
  try
    let bytes ← IO.FS.readBinFile path
    return { entries := [(names, .file bytes.toList)] }
  catch
    | .inappropriateType .. =>
      return { entries := [(names, .directory)] }
    | _ => return {}

end ConfigVars

open ConfigVars in
/-- Runs the console program. -/
def main (arguments : List String) : IO UInt32 := do
  let listed := variablesOf (← IO.FS.readBinFile "/proc/self/environ").toList
  let files ←
    match namedFile? arguments with
    | some path => loadFile path
    | none => pure {}
  match Console.run (.process listed) files arguments with
  | .ok result =>
    result.output.forM IO.println
    result.errors.forM IO.eprintln
    return result.exitCode.toUInt32
  | .error _ =>
    IO.eprintln "The check cannot go on."
    return 1
