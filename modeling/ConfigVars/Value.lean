import ConfigVars.Number.Binary64
import ConfigVars.Pattern

/-!
# Values

Variables and options hold values that are known only when the program runs (`Value`): plain data,
containers, and things with a behaviour, such as a pattern or a callable (`Callable`).  A callable
is one of the checks of this library, a sink for problems, or a script of the host program
(`Script`), which says what the callable does with the registry and what it answers.  The problems
that a registry reports (`Problem`) and the outcome of a reading (`Outcome`) are values too, since
a script may be given the one and may answer with the other.
-/

namespace ConfigVars

/-- What a stream of lines is when it is looked at as a value. -/
inductive StreamKind where
  | text
  | namedText
  | lines
  deriving DecidableEq, Repr

/-- What a choice among values makes of a value before it looks for it. -/
inductive Cast where
  | text
  | whole
  | decimal
  | truth
  | lower
  deriving DecidableEq, Repr

/-- Where a problem in a file or on a command line was met. -/
structure Place where
  source : Option String := none
  line : Option Int := none
  token : Option String := none
  deriving DecidableEq, Repr

mutual

/-- A value of a variable or of an option. -/
inductive Value where
  /-- No value, as it is given and answered. -/
  | nothing
  /-- No value, as it is stored. -/
  | undefined
  | bool (b : Bool)
  | int (n : Int)
  | float (x : Binary64)
  | text (s : String)
  | list (items : List Value)
  | tuple (items : List Value)
  | map (entries : List (Value × Value))
  | callable (c : Callable)
  | pattern (p : Pattern)
  | problem (p : Problem)
  | outcome (o : Outcome)
  | stream (kind : StreamKind)

/-- Something that can be called. -/
inductive Callable where
  | script (s : Script)
  /-- Keeps a record of the problems it is given. -/
  | recorder
  /-- Adds the problems it is given to the list of the innermost capture. -/
  | collector
  /-- Accepts what spells a truth value. -/
  | truthWords
  /-- Accepts what is among some values after a cast. -/
  | choices (among : Value) (cast : Cast)
  | validator (v : Validator)

/-- A check of a variable's value. -/
inductive Validator where
  /-- The pattern matches somewhere in the text of the value. -/
  | search (p : Pattern)
  /-- The callable answers with something true. -/
  | predicate (c : Callable)

/-- What a callable of the host program does: unless its guard holds it back, it follows its
instructions, and then fails or answers. -/
structure Script where
  id : String
  guard : Option Guard
  /-- The answer of a script that its guard holds back. -/
  otherwise : Value
  body : List Instruction
  failure : Option String
  answer : Answer

/-- A script runs only if one of its arguments is among some values. -/
structure Guard where
  argument : Nat
  among : List Value

/-- One thing that a script does. -/
inductive Instruction where
  | set (name : String) (value : Value)
  /-- Sets a variable to an argument of the script. -/
  | copy (name : String) (argument : Nat)
  /-- Looks a value up and leaves a record of it. -/
  | get (name : String)
  | define (name : String) (options : List (Value × Value))
  /-- Takes the front of the last argument, a list, and sets a variable to it if one is named. -/
  | pop (name : Option String)
  /-- Puts values at the front of the last argument. -/
  | push (values : List Value)
  /-- Empties the last argument. -/
  | clear

/-- What a script answers. -/
inductive Answer where
  | value (v : Value)
  | argument (index : Nat)

/-- A problem that a registry reports or stops at. -/
inductive Problem where
  | general (details : List Value)
  | unknownVariable (name : String)
  | badOption (option reason : String)
  | notCallable (option : String)
  | reading (fault : ReadingFault) (place : Place)

/-- What is wrong with a file or a command line. -/
inductive ReadingFault where
  | general (message : String)
  /-- The file cannot be opened or read. -/
  | unreadable (message : String)
  /-- The line has no name. -/
  | unsplit (message : String)
  | undefinedVariable (name : String)
  | rejected (name : String) (value : Value)
  | missingArgument
  | unknownFlag

/-- What came of reading a file or a command line. -/
structure Outcome where
  source : String
  /-- Whether the input could be read. -/
  ok : Bool
  /-- The number of assignments. -/
  applied : Int
  problems : List Problem

end

instance : Inhabited Value := ⟨.nothing⟩

namespace Outcome

/-- Whether the reading succeeded without a problem. -/
def isClean (o : Outcome) : Bool := o.ok && o.problems.isEmpty

/-- One more assignment. -/
def counted (o : Outcome) : Outcome := { o with applied := o.applied + 1 }

/-- One more problem. -/
def withProblem (o : Outcome) (p : Problem) : Outcome := { o with problems := o.problems ++ [p] }

/-- The input could not be read. -/
def failed (o : Outcome) : Outcome := { o with ok := false }

end Outcome

namespace Value

/-- Whether a value can be called. -/
def isCallable : Value → Bool
  | .callable _ => true
  | _ => false

/-- Whether a value stands for no value. -/
def isAbsent : Value → Bool
  | .nothing | .undefined => true
  | _ => false

/-- Whether a value counts as true. -/
def isTruthy : Value → Bool
  | .nothing | .undefined => false
  | .bool b => b
  | .int n => n != 0
  | .float x => !x.isZero
  | .text s => !s.isEmpty
  | .list items | .tuple items => !items.isEmpty
  | .map entries => !entries.isEmpty
  | .outcome o => o.ok
  | .callable _ | .pattern _ | .problem _ | .stream _ => true

end Value

end ConfigVars
