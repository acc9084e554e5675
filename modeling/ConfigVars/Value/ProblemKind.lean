import ConfigVars.Value

/-!
# Kinds of problems

Problems come in kinds with titles (`ProblemKind`).  Every kind but the general one is a special
case of another (`ProblemKind.above`), up to the general kind.
-/

namespace ConfigVars

/-- A kind of problem. -/
inductive ProblemKind where
  | general
  | unknownVariable
  | badOption
  | notCallable
  | reading
  | unreadable
  | unsplit
  | undefinedVariable
  | rejected
  | missingArgument
  | unknownFlag
  deriving DecidableEq, Repr

namespace ProblemKind

def all : List ProblemKind :=
  [.general, .unknownVariable, .badOption, .notCallable, .reading, .unreadable, .unsplit,
   .undefinedVariable, .rejected, .missingArgument, .unknownFlag]

def title : ProblemKind → String
  | .general => "ConfigError"
  | .unknownVariable => "NoSuchVariableError"
  | .badOption => "InvalidOptionError"
  | .notCallable => "NotInvocableError"
  | .reading => "IngestionError"
  | .unreadable => "FileOpenError"
  | .unsplit => "ParseError"
  | .undefinedVariable => "UndefinedVariableError"
  | .rejected => "ValidationFailure"
  | .missingArgument => "MissingArgumentError"
  | .unknownFlag => "InvalidFlagError"

/-- The kind with a title. -/
def ofTitle? (title : String) : Option ProblemKind := all.find? fun k => k.title == title

/-- The kinds that a kind is a special case of, nearest first. -/
def above : ProblemKind → List ProblemKind
  | .general => []
  | .unknownVariable | .badOption | .notCallable | .reading => [.general]
  | _ => [.reading, .general]

end ProblemKind

/-- The kind of a problem. -/
def Problem.kind : Problem → ProblemKind
  | .general _ => .general
  | .unknownVariable _ => .unknownVariable
  | .badOption .. => .badOption
  | .notCallable _ => .notCallable
  | .reading fault _ =>
    match fault with
    | .general _ => .reading
    | .unreadable _ => .unreadable
    | .unsplit _ => .unsplit
    | .undefinedVariable _ => .undefinedVariable
    | .rejected .. => .rejected
    | .missingArgument => .missingArgument
    | .unknownFlag => .unknownFlag

/-- The title of a problem. -/
def Problem.title (p : Problem) : String := p.kind.title

end ConfigVars
