import ConfigVars.Number.Shortest
import ConfigVars.Text.Quoted
import ConfigVars.Value.ProblemKind

/-!
# The text of a value

A value is written for messages and listings (`Value.toText`): a text stands for itself, and all
else is shown as it is inside a container too (`Value.shown`), where texts are quoted.  A problem
has a title and a message (`Problem.title`, `Problem.message`); what was met in a file is told with
the source and the line in front.
-/

namespace ConfigVars

open ConfigVars.Text

/-- Numbers below `10 ^ 16` and not below `10 ^ (-4)` have a point; an exponent has two digits. -/
def floatLayout : Layout := ⟨-3, 16, 2, "nan", "inf"⟩

/-- Puts the place in a file in front of a message. -/
def Place.locate (place : Place) (message : String) : String :=
  match place.source, place.line with
  | some source, some line => source ++ ":" ++ toString line ++ ": " ++ message
  | some source, none => source ++ ": " ++ message
  | none, _ => message

/-- The message for a value that a variable does not take. -/
def rejection (name value : String) : Option String → String
  | some token => token ++ " " ++ value ++ ": invalid data (" ++ name ++ ")"
  | none => "invalid data for '" ++ name ++ "'"

mutual

/-- How a value is shown inside a container. -/
def Value.shown : Value → String
  | .nothing => "None"
  | .undefined => "UNDEFINED"
  | .bool true => "True"
  | .bool false => "False"
  | .int n => toString n
  | .float x => x.render floatLayout
  | .text s => quoted s
  | .list items => "[" ++ ", ".intercalate (Value.shownItems items) ++ "]"
  | .tuple [item] => "(" ++ item.shown ++ ",)"
  | .tuple items => "(" ++ ", ".intercalate (Value.shownItems items) ++ ")"
  | .map entries => "\x7b" ++ ", ".intercalate (Value.shownEntries entries) ++ "\x7d"
  | .callable c => c.shown
  | .pattern p => p.render
  | .problem p => p.shown
  | .outcome o => o.shown
  | .stream .text => "<_io.StringIO object>"
  | .stream .namedText => "<_Named object>"
  | .stream .lines => "<_Lines object>"

/-- How the values of a container are shown. -/
def Value.shownItems : List Value → List String
  | [] => []
  | item :: rest => item.shown :: Value.shownItems rest

/-- How the entries of a map are shown. -/
def Value.shownEntries : List (Value × Value) → List String
  | [] => []
  | (k, v) :: rest => (k.shown ++ ": " ++ v.shown) :: Value.shownEntries rest

/-- How a callable is shown. -/
def Callable.shown : Callable → String
  | .script s => s.shown
  | .recorder => "<hook recorder>"
  | .collector => "<built-in method append of list object>"
  | .truthWords => "<appconfig._validators.Boolean object>"
  | .choices .. => "<appconfig._validators.Choices object>"
  | .validator v => v.shown

/-- A script is shown by its name. -/
def Script.shown : Script → String
  | ⟨id, _, _, _, _, _⟩ => "<hook " ++ id ++ ">"

/-- How a validator is shown. -/
def Validator.shown : Validator → String
  | .search p => "PatternValidator(" ++ quoted p.text ++ ")"
  | .predicate c => "PredicateValidator(" ++ c.shown ++ ")"

/-- How a problem is shown: its title, with the details or with the message that they make. -/
def Problem.shown : Problem → String
  | .general details => "ConfigError(" ++ ", ".intercalate (Value.shownItems details) ++ ")"
  | p => p.title ++ "(" ++ quoted p.message ++ ")"

/-- How problems are shown. -/
def Problem.shownAll : List Problem → List String
  | [] => []
  | p :: rest => p.shown :: Problem.shownAll rest

/-- How an outcome is shown. -/
def Outcome.shown : Outcome → String
  | ⟨source, ok, applied, problems⟩ =>
    "ParseResult(source=" ++ quoted source ++ ", ok=" ++ (if ok then "True" else "False") ++
      ", applied=" ++ toString applied ++
      ", errors=[" ++ ", ".intercalate (Problem.shownAll problems) ++ "])"

/-- The message of a problem. -/
def Problem.message : Problem → String
  | .general [] => ""
  | .general [.text s] => s
  | .general [.problem p] => p.message
  | .general [detail] => detail.shown
  | .general details => "(" ++ ", ".intercalate (Value.shownItems details) ++ ")"
  | .unknownVariable name => name ++ ": no such variable"
  | .badOption option reason => option ++ " " ++ reason
  | .notCallable option => option ++ " value is not callable"
  | .reading fault place => place.locate (fault.message place)

/-- The message for what is wrong at a place. -/
def ReadingFault.message : ReadingFault → Place → String
  | .general message, _ | .unreadable message, _ | .unsplit message, _ => message
  | .undefinedVariable name, _ => "no such variable: " ++ name
  | .rejected name (.text s), place => rejection name s place.token
  | .rejected name (.problem p), place => rejection name p.message place.token
  | .rejected name value, place => rejection name value.shown place.token
  | .missingArgument, place => place.token.getD "" ++ " expects an argument"
  | .unknownFlag, place => place.token.getD "" ++ ": invalid flag"

end

/-- The text of a value. -/
def Value.toText : Value → String
  | .text s => s
  | .problem p => p.message
  | v => v.shown

end ConfigVars
