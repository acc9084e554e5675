import ConfigVars.Run

/-!
# Setting and checking values

Setting a variable stores the value and then calls the variable's hook, if it has one (`assign`);
nothing is checked.  Resetting sets it to its default (`reset`).  A value is checked against the
variable's validator, and without one everything is valid (`validate`).
-/

namespace ConfigVars

open Run

/-- A value as it is stored. -/
def Value.toStored (v : Value) : Value := if v.isAbsent then .undefined else v

/-- A value as a hook is given it. -/
def Value.toGiven (v : Value) : Value := if v.isAbsent then .nothing else v

/-- Sets a variable, and answers with what its hook answers. -/
def assign (call : Caller) (name : String) (v : Value) : Run Value := do
  let (canonical, spec) ← orProblem ((← registry).find name)
  update fun r => { r with values := r.values.put canonical v.toStored }
  match spec.onChange with
  | some hook => return (← call hook true [.text canonical, v.toGiven]).answer
  | none => return .bool true

/-- Sets a variable to its default. -/
def reset (call : Caller) (name : String) : Run Value := do
  let (canonical, spec) ← orProblem ((← registry).find name)
  assign call canonical spec.default

/-- Whether a validator accepts a value. -/
def Validator.accepts (call : Caller) (v : Validator) (name : String) (value : Value) : Run Bool :=
  match v with
  | .search p => return finds p value
  | .predicate c => do return (← call c false [.text name, value]).answer.isTruthy

/-- Whether a value is valid for a variable. -/
def validate (call : Caller) (name : String) (value : Value) : Run Bool := do
  let r ← registry
  let (canonical, _) ← orProblem (r.find name)
  match r.validators.get? canonical with
  | some v => v.accepts call canonical value
  | none => return true

end ConfigVars
