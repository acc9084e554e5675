import ConfigVars.Options.Canonical
import ConfigVars.Options.Reading

/-!
# The settings of a registry

A registry has settings for its case policy, the end marker and the environment variable of command
lines, its hooks, its error sink, and the options that every variable is declared with beneath its
own (`Settings`).  Settings are built field by field from options (`Settings.build`), where a field
whose value cannot be read keeps its default, or strictly from a record (`Settings.ofRecord`), where
it is a failure.
-/

namespace ConfigVars

/-- A field of the settings. -/
inductive SettingsField where
  | caseSensitive
  | endOfArgs
  | cmdEnv
  | fileParse
  | lineParse
  | cmdParse
  | argParse
  | error
  | globalOptions
  deriving DecidableEq, Repr

namespace SettingsField

/-- The fields in their order. -/
def all : List SettingsField :=
  [.caseSensitive, .endOfArgs, .cmdEnv, .fileParse, .lineParse, .cmdParse, .argParse, .error,
   .globalOptions]

/-- The spellings of a field, its name first. -/
def spellings : SettingsField → List String
  | .caseSensitive => ["case_sensitive", "case"]
  | .endOfArgs => ["end_of_args", "endofargs"]
  | .cmdEnv => ["cmd_env", "cmdenv"]
  | .fileParse => ["file_parse", "fileparse"]
  | .lineParse => ["line_parse", "lineparse"]
  | .cmdParse => ["cmd_parse", "cmdparse"]
  | .argParse => ["arg_parse", "argparse"]
  | .error => ["error"]
  | .globalOptions => ["global_options", "global"]

def name (f : SettingsField) : String := f.spellings.headD ""

/-- The spellings of the fields, and those that take callables only. -/
def model : OptionModel SettingsField where
  spellings := all.flatMap fun f => f.spellings.map fun s => (s, f)
  isHook
    | .fileParse | .lineParse | .cmdParse | .argParse | .error => true
    | _ => false

end SettingsField

/-- The settings of a registry. -/
structure Settings where
  caseSensitive : Bool := false
  endOfArgs : String := "--"
  cmdEnv : Option String := none
  fileParse : Option Callable := none
  lineParse : Option Callable := none
  cmdParse : Option Callable := none
  argParse : Option Callable := none
  error : Option Callable := none
  globalOptions : Table String Value := ∅

namespace Settings

open FieldReader

/-- Settings with one field read from a value. -/
def withField (s : Settings) (v : Value) : SettingsField → Except (List Rejection) Settings
  | .caseSensitive => (truth v).map fun x => { s with caseSensitive := x }
  | .endOfArgs => (text v).map fun x => { s with endOfArgs := x }
  | .cmdEnv => (optional text v).map fun x => { s with cmdEnv := x }
  | .fileParse => (optional callable v).map fun x => { s with fileParse := x }
  | .lineParse => (optional callable v).map fun x => { s with lineParse := x }
  | .cmdParse => (optional callable v).map fun x => { s with cmdParse := x }
  | .argParse => (optional callable v).map fun x => { s with argParse := x }
  | .error => (optional callable v).map fun x => { s with error := x }
  | .globalOptions => (map v).map fun x => { s with globalOptions := x }

/-- Reads some fields one after the other; each that cannot be read is a problem and stays. -/
def buildFields (clean : Table SettingsField Value) :
    List SettingsField → Settings → Settings × List Problem
  | [], s => (s, [])
  | f :: rest, s =>
    match clean.get? f with
    | none => buildFields clean rest s
    | some v =>
      match s.withField v f with
      | .ok s' => buildFields clean rest s'
      | .error rejections =>
        let (s', problems) := buildFields clean rest s
        (s', .badOption f.name ("has an invalid value: " ++ firstMessage rejections) :: problems)

/-- The settings that options make, with one problem for each field whose value cannot be read. -/
def build (clean : Table SettingsField Value) : Settings × List Problem :=
  buildFields clean SettingsField.all {}

/-- The first spelling of a field that a record has, with its value. -/
def entry? (record : Table String Value) (f : SettingsField) : Option (String × Value) :=
  f.spellings.findSome? fun s => (record.get? s).map fun v => (s, v)

/-- Reads some fields of a record one after the other. -/
def readFields (record : Table String Value) :
    List SettingsField → Settings → Except (List Rejection) Settings
  | [], s => .ok s
  | f :: rest, s =>
    match entry? record f with
    | none => readFields record rest s
    | some (spelling, v) =>
      match s.withField v f, readFields record rest s with
      | .ok s', _ => readFields record rest s'
      | .error here, .ok _ => .error (here.map (Rejection.under (.key spelling)))
      | .error here, .error more => .error (here.map (Rejection.under (.key spelling)) ++ more)

/-- The settings that a record makes.  Other entries of the record do not matter. -/
def ofRecord (record : Table String Value) : Except (List Rejection) Settings :=
  readFields record SettingsField.all {}

/-- A callable that may be missing, as a value. -/
def hookValue (hook : Option Callable) : Value := (hook.map .callable).getD .nothing

/-- The value of a field. -/
def value (s : Settings) : SettingsField → Value
  | .caseSensitive => .bool s.caseSensitive
  | .endOfArgs => .text s.endOfArgs
  | .cmdEnv => (s.cmdEnv.map .text).getD .nothing
  | .fileParse => hookValue s.fileParse
  | .lineParse => hookValue s.lineParse
  | .cmdParse => hookValue s.cmdParse
  | .argParse => hookValue s.argParse
  | .error => hookValue s.error
  | .globalOptions => .map (s.globalOptions.entries.map fun (k, v) => (.text k, v))

/-- The names and values of the fields in their order. -/
def fields (s : Settings) : List (String × Value) :=
  SettingsField.all.map fun f => (f.name, s.value f)

/-- The fields that differ from their defaults, as options. -/
def changes (s : Settings) : List (Value × Value) :=
  SettingsField.all.filterMap fun f =>
    if (s.value f).equals (({} : Settings).value f) then none else some (.text f.name, s.value f)

end Settings

end ConfigVars
