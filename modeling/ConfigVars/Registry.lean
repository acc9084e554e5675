import ConfigVars.Environment
import ConfigVars.Options.Settings
import ConfigVars.Options.Variable
import ConfigVars.Validation.Validator

/-!
# Registries

A registry holds the declarations of variables, their values and validators, and the aliases and
triggers that lead to them (`Registry`).  A name is folded to small letters unless the registry
tells cases apart, and an alias is followed once (`Registry.resolve`).  What this module defines
only looks at a registry.
-/

namespace ConfigVars

open ConfigVars.Text

/-- A registry of variables. -/
structure Registry where
  settings : Settings := {}
  /-- The options beneath those of every declaration. -/
  globals : Table VariableField Value := ∅
  specs : Table String VariableSpec := ∅
  /-- The values of the variables; one that has no value is undefined. -/
  values : Table String Value := ∅
  validators : Table String Validator := ∅
  aliases : Table String String := ∅
  triggers : Table String String := ∅
  environment : Environment

namespace Registry

/-- A name as the registry keeps it. -/
def fold (r : Registry) (name : String) : String :=
  if r.settings.caseSensitive then name else lower name

/-- The canonical name that a name or an alias stands for. -/
def resolve (r : Registry) (name : String) : String :=
  (r.aliases.get? (r.fold name)).getD (r.fold name)

/-- Whether a name stands for a variable. -/
def isDefined (r : Registry) (name : String) : Bool := r.specs.contains (r.resolve name)

/-- The canonical names of the variables, in the order of their declarations. -/
def names (r : Registry) : List String := r.specs.keys

/-- The variable that a token of a command line sets. -/
def trigger? (r : Registry) (token : String) : Option String := r.triggers.get? (r.fold token)

/-- The canonical name and the declaration of the variable that a name stands for. -/
def find (r : Registry) (name : String) : Except Problem (String × VariableSpec) :=
  match r.specs.get? (r.resolve name) with
  | some spec => .ok (r.resolve name, spec)
  | none => .error (.unknownVariable (r.resolve name))

/-- The declaration of a variable. -/
def spec (r : Registry) (name : String) : Except Problem VariableSpec :=
  (r.find name).map Prod.snd

/-- The value of a variable as it is stored. -/
def stored (r : Registry) (name : String) : Except Problem Value :=
  (r.find name).map fun (canonical, _) => (r.values.get? canonical).getD .undefined

/-- A value as it is answered: none at all for one that is undefined. -/
def answered : Value → Value
  | .undefined => .nothing
  | v => v

/-- The value of a variable. -/
def get (r : Registry) (name : String) : Except Problem Value := (r.stored name).map answered

/-- Whether a value is there. -/
def isPresent : Value → Bool
  | .undefined => false
  | _ => true

/-- Whether a variable has a value. -/
def hasValue (r : Registry) (name : String) : Except Problem Bool :=
  (r.stored name).map isPresent

/-- The value of a variable, if the name stands for one that has a value. -/
def value? (r : Registry) (name : String) : Option Value :=
  match r.stored name with
  | .ok v => if isPresent v then some v else none
  | .error _ => none

/-- All variables with their values. -/
def toList (r : Registry) : List (String × Value) :=
  r.values.entries.map fun (name, v) => (name, answered v)

end Registry

end ConfigVars
