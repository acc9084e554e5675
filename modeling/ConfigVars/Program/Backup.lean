import ConfigVars.Calling
import ConfigVars.Ingestion.CommandLine
import ConfigVars.Registry.Create
import ConfigVars.Registry.Dump
import ConfigVars.Snapshot

/-!
# A backup tool

An example of a program with a registry: it declares its variables (`Backup.declare`), reads a file
in the home directory and then its arguments, and takes a typed snapshot of them (`Backup.run`).
Problems on the command line end it; problems in the file go into the log.
-/

namespace ConfigVars.Backup

open ConfigVars Run

/-- Declares the variables of the tool. -/
def declare (call : Caller) : Run Unit := do
  let value (v : String) : Value := .text v
  let _ ← define call "verbose" [] [("aliases", value "v")]
  let _ ← define call "compress" [] [("aliases", value "z")]
  let _ ← define call "host" []
    [("default", value "localhost"), ("argument_required", .bool true)]
  let _ ← define call "target" []
    [("default", value "~/backups"), ("argument_required", .bool true)]
  let _ ← define call "keep" []
    [("default", value "5"), ("validator", value "^\\d+$"), ("argument_required", .bool true)]
  let _ ← define call "method" []
    [("default", value "tar"),
     ("validator", .callable (.choices (.list [value "tar", value "rsync"]) .text)),
     ("argument_required", .bool true),
     ("command_triggers", .list [value "-m", value "-method"])]
  return ()

/-- The options of the registry of the tool. -/
def options : List (Value × Value) :=
  [(.text "cmd_env", .text "BACKUP_OPTS"),
   (.text "global_options", .map [(.text "command_triggers", .bool true)])]

/-- The typed fields of the tool. -/
def fields : List SnapshotField :=
  [{ name := "verbose", type := .truth, default := some (.bool false) },
   { name := "compress", type := .truth, default := some (.bool false) },
   { name := "host", type := .text },
   { name := "target", type := .text },
   { name := "keep", type := .whole },
   { name := "method", type := .text }]

/-- What the tool prints, and how it ends. -/
structure Result where
  exitCode : Nat
  output : List String := []
  errors : List String := []
  /-- The arguments that are left. -/
  remaining : List Value := []

/-- The text of a field of a snapshot. -/
def fieldText (snapshot : List (String × Value)) (name : String) : String :=
  ((snapshot.lookup name).map Value.toText).getD ""

/-- What the tool says when it starts its work. -/
def summary (argv : List Value) (snapshot : List (String × Value)) : String :=
  let places := if argv.isEmpty then [.text "."] else argv
  "backing up " ++ (Value.list places).shown ++ " to " ++ fieldText snapshot "target" ++ " with " ++
    fieldText snapshot "method" ++ ", keeping " ++ fieldText snapshot "keep"

/-- Runs the tool in a world, with the path of its file. -/
def run (call : Caller) (environment : Environment) (file : String) (argv : List Value) :
    Run Result := do
  start call environment .none options
  declare call
  if (← get).files.leads file then
    let _ ← readSource call (.path file)
  let (left, o) ← readArguments call argv
  if !o.problems.isEmpty then
    return { exitCode := 2, errors := o.problems.map fun p => "backup: " ++ p.message
             remaining := left }
  let r ← registry
  match r.snapshot "" fields with
  | .error rejections => throw (.record rejections)
  | .ok snapshot =>
    let listing :=
      match snapshot.lookup "verbose" with
      | some (.bool true) => r.dump
      | _ => []
    return { exitCode := 0, output := listing ++ [summary left snapshot], remaining := left }

/-- The name of the tool's file, behind the home directory. -/
def fileName : String := "/.backuprc"

/-- The path of the tool's file in a home directory. -/
def fileIn (home : String) : String :=
  (Environment.homeWith home fileName.toList).getD ("~" ++ fileName)

end ConfigVars.Backup
