import ConfigVars.Registry.Assign
import ConfigVars.Registry.Report

/-!
# Declaring variables

A declaration merges the options that it is given with those of the registry, and makes a
specification and a validator of them (`Declaration.ofOptions`).  `Registry.declare` enters it into
the tables; options that cannot be used are left out, and so are aliases that are names of
variables.  `define` does this, reports what was left out, and sets the variable to its default.
-/

namespace ConfigVars

open ConfigVars.Text Run

/-- What options make of a variable. -/
structure Declaration where
  spec : VariableSpec
  validator : Option Validator
  problems : List Problem

namespace Declaration

/-- The validator that options ask for, and the options without it when it cannot be used. -/
def takeValidator (options : Table VariableField Value) :
    Except Failure (Table VariableField Value × Option Validator × List Problem) :=
  match options.get? .validator with
  | none | some .nothing => .ok (options, none, [])
  | some v =>
    match Validator.ofValue v with
    | .ok validator => .ok (options, some validator, [])
    | .error .wrongKind => .ok (options.erase .validator, none, [.notCallable "validator"])
    | .error (.refused text refusal) =>
      match refusal with
      | .malformed .. =>
        .ok (options.erase .validator, none,
          [.badOption "validator" ("is not a valid pattern: " ++ refusal.message text)])
      | _ => .error (.ofRefusal text refusal)

/-- The declaration that options make, above those of a registry. -/
def ofOptions (globals : Table VariableField Value) (options : List (Value × Value)) :
    Except Failure Declaration := do
  let (own, problems) := VariableField.model.canonical options
  let (merged, validator, more) ← takeValidator (globals.overlay own)
  let (spec, others) := VariableSpec.build merged
  return ⟨spec, validator, problems ++ more ++ others⟩

end Declaration

namespace Registry

/-- Enters aliases of a variable, and gives those that are names of variables. -/
def addAliases (r : Registry) (canonical : String) : List String → Registry × List Problem
  | [] => (r, [])
  | name :: rest =>
    if r.specs.contains (r.fold name) then
      let (r', problems) := r.addAliases canonical rest
      (r', .badOption name "is already a variable name" :: problems)
    else { r with aliases := r.aliases.put (r.fold name) canonical }.addAliases canonical rest

/-- Enters triggers of a variable. -/
def addTriggers (r : Registry) (canonical : String) (tokens : List String) : Registry :=
  { r with triggers := r.triggers.putAll (tokens.map fun t => (r.fold t, canonical)) }

/-- Enters a declaration of a variable, which then has no value. -/
def declare (r : Registry) (name : String) (d : Declaration) : Registry × List Problem :=
  let canonical := r.fold name
  let entered :=
    { r with
      aliases := r.aliases.erase canonical
      specs := r.specs.put canonical d.spec
      values := r.values.put canonical .undefined
      validators :=
        match d.validator with
        | some v => r.validators.put canonical v
        | none => r.validators.erase canonical }
  let (r', problems) := entered.addAliases canonical d.spec.aliases
  (r'.addTriggers canonical (d.spec.triggerTokens name), problems)

end Registry

/-- A list of texts as it is shown. -/
def shownTexts (ts : List String) : String := (Value.list (ts.map .text)).shown

/-- The options of a declaration.  Keywords go above the other ones. -/
def givenOptions (options : List (Value × Value)) (keywords : List (String × Value)) :
    List (Value × Value) :=
  ((Table.ofList options).putAll (keywords.map fun (k, v) => (.text k, v))).entries

/-- Declares a variable and sets it to its default. -/
def define (call : Caller) (name : String) (options : List (Value × Value))
    (keywords : List (String × Value)) : Run String := do
  let r ← registry
  let d ← orFailure (Declaration.ofOptions r.globals (givenOptions options keywords))
  let canonical := r.fold name
  let (r', problems) := r.declare name d
  update fun _ => r'
  reportAll call (d.problems ++ problems)
  detail ("Defined variable " ++ quoted canonical ++ " (aliases=" ++ shownTexts d.spec.aliases ++
    ", triggers=" ++ shownTexts (d.spec.triggerTokens name) ++ ")")
  let _ ← reset call canonical
  return canonical

/-- Points an alias, a name of its own, at a target, unless it is the name of a variable. -/
def addAlias (call : Caller) (name target : String) : Run Bool := do
  let r ← registry
  if r.specs.contains (r.fold name) then
    report call (.badOption name "is already a variable name")
    return false
  else
    update fun r => { r with aliases := r.aliases.put (r.fold name) (r.fold target) }
    return true

end ConfigVars
