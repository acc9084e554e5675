import ConfigVars.Value.Text

/-!
# Validators from options

The validator of a variable is given as a pattern or as a callable (`Validator.ofValue`); the text
of a pattern is read first.  A validator that is given as such stays as it is.
-/

namespace ConfigVars

/-- Why a value makes no validator. -/
inductive ValidatorFault where
  /-- It is neither a pattern nor a callable. -/
  | wrongKind
  /-- It is a text, but no pattern. -/
  | refused (text : String) (refusal : Pattern.Refusal)

/-- The name of a value's kind. -/
def Value.kindName : Value → String
  | .nothing => "NoneType"
  | .undefined => "_Undefined"
  | .bool _ => "bool"
  | .int _ => "int"
  | .float _ => "float"
  | .text _ => "str"
  | .list _ => "list"
  | .tuple _ => "tuple"
  | .map _ => "dict"
  | .callable (.script _) | .callable .recorder => "Hook"
  | .callable .collector => "builtin_function_or_method"
  | .callable .truthWords => "Boolean"
  | .callable (.choices ..) => "Choices"
  | .callable (.validator (.search _)) => "PatternValidator"
  | .callable (.validator (.predicate _)) => "PredicateValidator"
  | .pattern _ => "Pattern"
  | .problem p => p.title
  | .outcome _ => "ParseResult"
  | .stream .text => "StringIO"
  | .stream .namedText => "_Named"
  | .stream .lines => "_Lines"

namespace Validator

/-- The validator that a value makes. -/
def ofValue : Value → Except ValidatorFault Validator
  | .callable (.validator v) => .ok v
  | .callable c => .ok (.predicate c)
  | .pattern p => .ok (.search p)
  | .text s =>
    match Pattern.ofText s with
    | .ok p => .ok (.search p)
    | .error refusal => .error (.refused s refusal)
  | _ => .error .wrongKind

/-- Whether a validator that searches for a pattern accepts a value.  It takes no value at all for
no match. -/
def finds (p : Pattern) : Value → Bool
  | .nothing => false
  | v => p.search v.toText

end Validator

end ConfigVars
