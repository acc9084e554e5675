import ConfigVars.Registry.Define
import ConfigVars.Validation.Choice
import ConfigVars.Validation.TruthWord

/-!
# Calling callables

A callable is called with arguments (`Callable.call`): checks answer with a truth value, the sinks
keep what they are given, and a script follows its instructions (`Script.run`).  A script may set
and declare variables, which may call scripts again; calls go down only so far, and then fail.
-/

namespace ConfigVars

open Run

/-- The value that a check is called for.  It takes a name and a value, and the registry may stand
for the name. -/
def checkedValue (withRegistry : Bool) : List Value → Run Value
  | [v] => if withRegistry then return v else throw .wrongKind
  | [_, v] => if withRegistry then throw .wrongKind else return v
  | _ => throw .wrongKind

/-- The problem that a sink is called with. -/
def givenProblem (withRegistry : Bool) : List Value → Run Problem
  | [.problem p] => if withRegistry then throw .wrongKind else return p
  | _ => throw .wrongKind

/-- Adds a problem to the innermost capture. -/
def collect (p : Problem) : Run Unit :=
  modify fun w =>
    match w.captures with
    | [] => w
    | capture :: outer =>
      { w with captures := { capture with problems := capture.problems ++ [p] } :: outer }

/-- The arguments with another list in the last place. -/
def withLastList (arguments : List Value) (change : List Value → Run (List Value)) :
    Run (List Value) :=
  match arguments.getLast? with
  | some (.list items) => do return arguments.dropLast ++ [.list (← change items)]
  | some _ => throw .unchangeable
  | none => throw .outOfRange

/-- An argument of a script. -/
def argumentAt (arguments : List Value) (index : Nat) : Except Failure Value :=
  match arguments[index]? with
  | some v => .ok v
  | none => .error .outOfRange

/-- Follows one instruction of a script, and gives the arguments as it leaves them. -/
def Instruction.run (call : Caller) (arguments : List Value) : Instruction → Run (List Value)
  | .set name value => do
    let _ ← assign call name value
    return arguments
  | .copy name index => do
    let _ ← assign call name (← orFailure (argumentAt arguments index))
    return arguments
  | .get name => do
    record (.got name (← orProblem ((← registry).get name)))
    return arguments
  | .define name options => do
    let _ ← ConfigVars.define call name options []
    return arguments
  | .pop name? =>
    withLastList arguments fun
      | [] => throw .outOfRange
      | front :: rest => do
        if let some name := name? then
          let _ ← assign call name front
        return rest
  | .push values => withLastList arguments fun items => return values ++ items
  | .clear => withLastList arguments fun _ => return []

/-- Follows some instructions one after the other. -/
def Instruction.runAll (call : Caller) : List Value → List Instruction → Run (List Value)
  | arguments, [] => return arguments
  | arguments, i :: rest => do runAll call (← i.run call arguments) rest

/-- Whether a guard lets a script run. -/
def Guard.admits (g : Guard) (arguments : List Value) : Except Failure Bool :=
  (argumentAt arguments g.argument).map fun v => g.among.any v.same

/-- Whether a script runs with some arguments. -/
def Script.runsWith (s : Script) (arguments : List Value) : Except Failure Bool :=
  match s.guard with
  | some g => g.admits arguments
  | none => .ok true

/-- What a script answers. -/
def Answer.resolve (arguments : List Value) : Answer → Except Failure Value
  | .value v => .ok v
  | .argument index => argumentAt arguments index

/-- Calls a script. -/
def Script.run (call : Caller) (s : Script) (arguments : List Value) : Run Reply := do
  record (.call s.id arguments)
  if ← orFailure (s.runsWith arguments) then
    let left ← Instruction.runAll call arguments s.body
    match s.failure with
    | some message => throw (.script message)
    | none => return ⟨← orFailure (s.answer.resolve left), left⟩
  else return ⟨s.otherwise, arguments⟩

/-- What a callable answers, where the callables that it calls are called through a caller. -/
def Callable.answer (call : Caller) : Caller := fun c withRegistry arguments =>
  match c with
  | .script s => s.run call arguments
  | .recorder => do
    record (.problem (← givenProblem withRegistry arguments))
    return ⟨.nothing, arguments⟩
  | .collector => do
    collect (← givenProblem withRegistry arguments)
    return ⟨.nothing, arguments⟩
  | .truthWords => do
    return ⟨.bool (TruthWord.accepts (← checkedValue withRegistry arguments)), arguments⟩
  | .choices among cast => do
    let v ← checkedValue withRegistry arguments
    return ⟨.bool (← orFailure (Choice.accepts among cast v)), arguments⟩
  | .validator (.search p) => do
    return ⟨.bool (Validator.finds p (← checkedValue withRegistry arguments)), arguments⟩
  | .validator (.predicate c') => do
    let _ ← checkedValue withRegistry arguments
    let reply ← call c' withRegistry arguments
    return ⟨.bool reply.answer.isTruthy, reply.arguments⟩

/-- Calls a callable, which may call others down to a depth. -/
def Callable.call : Nat → Caller
  | 0 => fun _ _ _ => throw .endless
  | depth + 1 => Callable.answer (Callable.call depth)

/-- How deep callables may call each other. -/
def maxCallDepth : Nat := 250

/-- The caller of a program. -/
def Caller.standard : Caller := Callable.call maxCallDepth

end ConfigVars
