import ConfigVars.Options.Canonical
import ConfigVars.Options.Reading

/-!
# The options of a variable

A variable is declared with options for its default, its validator, its hook, its aliases and its
triggers (`VariableSpec`).  A specification is built field by field (`VariableSpec.build`): a
field whose value cannot be read keeps its default, and this is one problem.
-/

namespace ConfigVars

/-- A field of a variable's specification. -/
inductive VariableField where
  | default
  | argumentRequired
  | expand
  | validator
  | onChange
  | aliases
  | triggers
  deriving DecidableEq, Repr

namespace VariableField

/-- The fields in their order. -/
def all : List VariableField :=
  [.default, .argumentRequired, .expand, .validator, .onChange, .aliases, .triggers]

def name : VariableField → String
  | .default => "default"
  | .argumentRequired => "argument_required"
  | .expand => "expand"
  | .validator => "validator"
  | .onChange => "on_change"
  | .aliases => "aliases"
  | .triggers => "command_triggers"

/-- The spellings of the fields, and the one that takes callables only. -/
def model : OptionModel VariableField where
  spellings :=
    [("default", .default), ("argument_required", .argumentRequired),
     ("argcount", .argumentRequired), ("expand", .expand), ("validator", .validator),
     ("validate", .validator), ("on_change", .onChange), ("action", .onChange),
     ("aliases", .aliases), ("alias", .aliases), ("command_triggers", .triggers),
     ("cmdarg", .triggers)]
  isHook field := field == .onChange

end VariableField

/-- Which tokens of a command line set a variable. -/
inductive Triggers where
  /-- The name and the aliases behind a minus sign, or none. -/
  | generated (on : Bool)
  | tokens (ts : List String)
  deriving DecidableEq, Repr

/-- The declaration of a variable. -/
structure VariableSpec where
  default : Value := .nothing
  /-- Whether a flag for the variable needs a value. -/
  argumentRequired : Bool := false
  /-- Whether values from files are expanded. -/
  expand : Bool := true
  validator : Value := .nothing
  onChange : Option Callable := none
  aliases : List String := []
  triggers : Triggers := .tokens []

namespace VariableSpec

open FieldReader

/-- Whether an argument is required: a number says so unless it is zero. -/
def readRequired : FieldReader Bool
  | .int n => .ok (n != 0)
  | .float x => .ok !x.isZero
  | v => truth v

/-- One text, or a tuple of texts. -/
def readTexts : FieldReader (List String)
  | .nothing => .ok []
  | .text s => .ok [s]
  | v => tuple text v

/-- Triggers as texts, or a truth value or a number for generated ones. -/
def readTriggers : FieldReader Triggers
  | .bool b => .ok (.generated b)
  | .int n => .ok (.generated (n != 0))
  | .float x =>
    match truth (.float x) with
    | .ok b => .ok (.generated b)
    | .error _ => (readTexts (.float x)).map .tokens
  | v => (readTexts v).map .tokens

/-- What a reader makes of a field: its value, if the options have a usable one, and what is
rejected first otherwise. -/
def field {α : Type} (clean : Table VariableField Value) (f : VariableField)
    (read : FieldReader α) : Option α × List Problem :=
  match clean.get? f with
  | none => (none, [])
  | some v =>
    match read v with
    | .ok x => (some x, [])
    | .error rejections =>
      (none, [.badOption f.name ("has an invalid value: " ++ firstMessage rejections)])

/-- The specification that options make, with one problem for each field whose value cannot be
read. -/
def build (clean : Table VariableField Value) : VariableSpec × List Problem :=
  let (required, p₁) := field clean .argumentRequired readRequired
  let (expand, p₂) := field clean .expand truth
  let (onChange, p₃) := field clean .onChange (optional callable)
  let (aliases, p₄) := field clean .aliases readTexts
  let (triggers, p₅) := field clean .triggers readTriggers
  ({ default := (clean.get? .default).getD .nothing
     argumentRequired := required.getD false
     expand := expand.getD true
     validator := (clean.get? .validator).getD .nothing
     onChange := onChange.getD none
     aliases := aliases.getD []
     triggers := triggers.getD (.tokens []) },
   p₁ ++ p₂ ++ p₃ ++ p₄ ++ p₅)

/-- The value of a field. -/
def value (spec : VariableSpec) : VariableField → Value
  | .default => spec.default
  | .argumentRequired => .bool spec.argumentRequired
  | .expand => .bool spec.expand
  | .validator => spec.validator
  | .onChange => (spec.onChange.map .callable).getD .nothing
  | .aliases => .tuple (spec.aliases.map .text)
  | .triggers =>
    match spec.triggers with
    | .generated on => .bool on
    | .tokens ts => .tuple (ts.map .text)

/-- The names and values of the fields in their order. -/
def fields (spec : VariableSpec) : List (String × Value) :=
  VariableField.all.map fun f => (f.name, spec.value f)

/-- The tokens that set a variable of a name. -/
def triggerTokens (spec : VariableSpec) (name : String) : List String :=
  match spec.triggers with
  | .generated true => (name :: spec.aliases).map ("-" ++ ·)
  | .generated false => []
  | .tokens ts => ts

end VariableSpec

end ConfigVars
