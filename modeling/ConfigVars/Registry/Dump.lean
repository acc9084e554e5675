import ConfigVars.Registry

/-!
# Listing a registry

A registry is listed line by line (`Registry.dump`): its hooks and its case policy, every variable
with its value, default, validator and need for an argument, and then the aliases and the triggers.
-/

namespace ConfigVars

/-- A text filled up with spaces to a width. -/
def padded (width : Nat) (s : String) : String :=
  s ++ String.ofList (List.replicate (width - s.length) ' ')

/-- What stands for something that is missing. -/
def missingText : String := "<none>"

/-- A value in a listing. -/
def Value.listed (v : Value) : String := if v.isAbsent then missingText else v.toText

namespace Registry

/-- The line for a hook. -/
def hookLine (name : String) (hook : Option Callable) : String :=
  padded 10 name ++ " => " ++ (hook.map Callable.shown).getD missingText

/-- The line for a property of a variable. -/
def propertyLine (name text : String) : String := "    " ++ padded 9 name ++ ": " ++ text

/-- The line for an entry of a table of names. -/
def entryLine (entry : String × String) : String :=
  "    " ++ padded 12 entry.1 ++ " => " ++ entry.2

/-- The lines for a variable. -/
def variableLines (r : Registry) (entry : String × VariableSpec) : List String :=
  let (name, spec) := entry
  let validator := (r.validators.get? name).map Validator.shown
  ["  " ++ name,
   propertyLine "value" ((r.values.get? name).getD .undefined).listed,
   propertyLine "default" spec.default.listed,
   propertyLine "validator" (validator.getD missingText),
   propertyLine "argument" (if spec.argumentRequired then "required" else "none")]

/-- The listing of a registry. -/
def dump (r : Registry) : List String :=
  let s := r.settings
  [hookLine "file_parse" s.fileParse, hookLine "line_parse" s.lineParse,
   hookLine "cmd_parse" s.cmdParse, hookLine "arg_parse" s.argParse, hookLine "error" s.error,
   padded 10 "case" ++ " => " ++ (if s.caseSensitive then "sensitive" else "insensitive"),
   "VARIABLES"] ++
    r.specs.entries.flatMap r.variableLines ++
    "ALIASES" :: r.aliases.entries.map entryLine ++
    "TRIGGERS" :: r.triggers.entries.map entryLine

end Registry

end ConfigVars
