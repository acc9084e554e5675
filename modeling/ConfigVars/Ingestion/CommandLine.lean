import ConfigVars.Ingestion.ConfigFile

/-!
# Reading variables from a command line

Flags are taken from the front of a list of arguments, with their values (`scan`): a flag sets the
variable that it triggers, or is a problem.  The first argument that is no flag stops the reading,
and so does the end marker, which is taken too.  What is left stays for the program
(`readArguments`).
-/

namespace ConfigVars

open ConfigVars.Text Run

/-- The name of a command line as a source. -/
def commandLineName : String := "<argv>"

/-- Whether an argument is a flag. -/
def isFlag (token : String) : Bool := token.toList.head? = some '-'

/-- The value of a flag that needs one, and the arguments behind it.  Without a value, a
placeholder in its place goes too. -/
def takeArgument : List Value → Option String × List Value
  | .text s :: rest => if isFlag s then (none, .text s :: rest) else (some s, rest)
  | .nothing :: rest => (none, rest)
  | argv => (none, argv)

/-- Applies a flag for a variable, and gives the arguments behind it. -/
def applyFlag (call : Caller) (o : Outcome) (token name : String) (argv : List Value) :
    Run (List Value × Outcome) := do
  let spec ← orProblem ((← registry).spec name)
  let place : Place := { token := some token }
  if spec.argumentRequired then
    match takeArgument argv with
    | (some s, rest) => return (rest, ← store call o name (.text s) place)
    | (none, rest) => return (rest, ← note call o (.reading .missingArgument place))
  else return (argv, ← store call o name flagValue place)

/-- The list that a hook has left in the last place of its arguments. -/
def Reply.lastList (reply : Reply) : List Value :=
  match reply.arguments.getLast? with
  | some (.list items) => items
  | _ => []

/-- Takes flags from the front of the arguments.  A hook may put arguments back, so the number of
flags is limited. -/
def scan (call : Caller) (settings : Settings) :
    Nat → List Value → Outcome → Run (List Value × Outcome)
  | 0, _, _ => throw .endless
  | fuel + 1, .text token :: rest, o => do
    if !isFlag token then return (.text token :: rest, o)
    if token = settings.endOfArgs then return (rest, o)
    match (← registry).trigger? token with
    | none =>
      let o ← note call o (.reading .unknownFlag { token := some token })
      scan call settings fuel rest o
    | some name =>
      match settings.argParse with
      | none =>
        let (rest, o) ← applyFlag call o token name rest
        scan call settings fuel rest o
      | some hook =>
        let reply ← call hook true [.text token, .text name, .list rest]
        if reply.answer.isTruthy then scan call settings fuel reply.lastList o
        else
          let (rest, o) ← applyFlag call o token name reply.lastList
          scan call settings fuel rest o
  | _ + 1, argv, o => return (argv, o)

/-- The number of flags that may be put back. -/
def patience : Nat := 100000

/-- The arguments with those in front that the environment has. -/
def withDefaults (r : Registry) (argv : List Value) : List Value :=
  match r.settings.cmdEnv.bind r.environment.get? with
  | some text => (words text).map .text ++ argv
  | none => argv

/-- Reads variables from arguments, and gives those that are left. -/
def readArguments (call : Caller) (argv : List Value) : Run (List Value × Outcome) := do
  let r ← registry
  let argv := withDefaults r argv
  match r.settings.cmdParse with
  | some hook =>
    let reply ← call hook true [.list argv]
    return (reply.lastList, .ofAnswer commandLineName reply.answer)
  | none =>
    let (left, o) ←
      scan call r.settings (argv.length + 1 + patience) argv (.fresh commandLineName)
    detail ("Parsed arguments: " ++ toString o.applied ++ " variable(s) set, " ++
      toString o.problems.length ++ " error(s), " ++ toString left.length ++ " argument(s) left")
    return (left, o)

end ConfigVars
