import ConfigVars.Proofs.Alike

/-!
# Kinds of runs

A *kind* of runs (`RunKind`) has all that operations on variables are made of: answers and failures,
runs one behind the other, looks at the registry and changes of it, and what is left in records.
Of the calls that scripts leave records of, it has those with arguments that the kind *allows*; a
problem by itself, and a name with a value, are always allowed.

So the operations on variables are of a kind when what they call is (`RunKind.Calls`), and so are
callables, at whatever depth they call each other (`RunKind.calls`).
-/

namespace ConfigVars

open Run

/-- A kind of runs that has all that operations are made of. -/
structure RunKind where
  Has : ∀ {α : Type}, Run α → Prop
  /-- The arguments of the calls that the kind has. -/
  Allows : List Value → Prop
  pure : ∀ {α : Type} (a : α), Has (Pure.pure a : Run α)
  throw : ∀ {α : Type} (f : Failure), Has (throw f : Run α)
  bind : ∀ {α β : Type} {x : Run α} {f : α → Run β}, Has x → (∀ a, Has (f a)) → Has (x >>= f)
  registry : Has Run.registry
  update : ∀ f, Has (Run.update f)
  told : ∀ p, Has (record (.problem p))
  logged : ∀ level message, Has (record (.log level message))
  got : ∀ name v, Has (record (.got name v))
  called : ∀ id {arguments}, Allows arguments → Has (record (.call id arguments))
  detail : ∀ message, Has (Run.detail message)
  collect : ∀ p, Has (ConfigVars.collect p)
  allows_problem : ∀ p, Allows [.problem p]
  allows_value : ∀ name v, Allows [.text name, v]

namespace RunKind

variable {k : RunKind} {call : Caller} {α : Type}

theorem orProblem : (x : Except Problem α) → k.Has (Run.orProblem x)
  | .ok a => k.pure a
  | .error p => k.throw (.problem p)

theorem orFailure : (x : Except Failure α) → k.Has (Run.orFailure x)
  | .ok a => k.pure a
  | .error f => k.throw f

/-- What is called with arguments that the kind allows is of the kind. -/
def Calls (k : RunKind) (call : Caller) : Prop :=
  ∀ c withRegistry arguments, k.Allows arguments → k.Has (call c withRegistry arguments)

namespace Calls

/-! ### Operations on variables -/

theorem assign (h : k.Calls call) (name : String) (v : Value) : k.Has (assign call name v) := by
  refine k.bind k.registry fun r => k.bind (orProblem _) fun found => k.bind (k.update _) fun _ => ?_
  split
  · exact k.bind (h _ _ _ (k.allows_value _ _)) fun reply => k.pure _
  · exact k.pure _

theorem reset (h : k.Calls call) (name : String) : k.Has (reset call name) :=
  k.bind k.registry fun _ => k.bind (orProblem _) fun _ => h.assign _ _

theorem validate (h : k.Calls call) (name : String) (v : Value) :
    k.Has (validate call name v) := by
  refine k.bind k.registry fun r => k.bind (orProblem _) fun (canonical, _) => ?_
  dsimp only
  cases r.validators.get? canonical with
  | none => exact k.pure _
  | some validator =>
    cases validator with
    | search p => exact k.pure _
    | predicate c => exact k.bind (h c _ _ (k.allows_value _ _)) fun reply => k.pure _

theorem report (h : k.Calls call) (p : Problem) : k.Has (report call p) := by
  refine k.bind k.registry fun r => ?_
  split
  · exact k.bind (h _ _ _ (k.allows_problem p)) fun _ => k.pure _
  · exact k.logged _ _

theorem reportAll (h : k.Calls call) (ps : List Problem) : k.Has (reportAll call ps) := by
  induction ps with
  | nil => exact k.pure _
  | cons p rest ih => exact k.bind (h.report p) fun _ => ih

theorem define (h : k.Calls call) (name : String) (options : List (Value × Value))
    (keywords : List (String × Value)) : k.Has (define call name options keywords) :=
  k.bind k.registry fun _ => k.bind (orFailure _) fun _ => k.bind (k.update _) fun _ =>
    k.bind (h.reportAll _) fun _ => k.bind (k.detail _) fun _ =>
      k.bind (h.reset _) fun _ => k.pure _

/-! ### Callables -/

theorem withLastList {arguments : List Value} {change : List Value → Run (List Value)}
    (h : ∀ items, k.Has (change items)) : k.Has (withLastList arguments change) := by
  unfold ConfigVars.withLastList
  split
  · exact k.bind (h _) fun _ => k.pure _
  · exact k.throw _
  · exact k.throw _

theorem instruction (h : k.Calls call) (arguments : List Value) (i : Instruction) :
    k.Has (i.run call arguments) := by
  cases i with
  | set name v => exact k.bind (h.assign name v) fun _ => k.pure _
  | copy name index =>
    exact k.bind (orFailure _) fun v => k.bind (h.assign name v) fun _ => k.pure _
  | get name =>
    exact k.bind k.registry fun r => k.bind (orProblem _) fun v => k.bind (k.got _ _) fun _ =>
      k.pure _
  | define name options => exact k.bind (h.define name options []) fun _ => k.pure _
  | pop name? =>
    refine withLastList fun items => ?_
    cases items with
    | nil => exact k.throw _
    | cons front rest =>
      cases name? with
      | none => exact k.pure _
      | some name => exact k.bind (h.assign name front) fun _ => k.pure _
  | push values => exact withLastList fun items => k.pure _
  | clear => exact withLastList fun items => k.pure _

theorem instructions (h : k.Calls call) (arguments : List Value) (is : List Instruction) :
    k.Has (Instruction.runAll call arguments is) := by
  induction is generalizing arguments with
  | nil => exact k.pure _
  | cons i rest ih => exact k.bind (h.instruction arguments i) fun left => ih left

/-- A script leaves a record of its call, whether the kind allows the arguments or not, and what it
does behind that is of the kind. -/
theorem script_behind (h : k.Calls call) (s : Script) (arguments : List Value) :
    ∃ x : Run Reply, s.run call arguments = (do record (.call s.id arguments); x) ∧ k.Has x := by
  refine ⟨_, rfl, k.bind (orFailure _) fun runs => ?_⟩
  split
  · refine k.bind (h.instructions arguments s.body) fun left => ?_
    split
    · exact k.throw _
    · exact k.bind (orFailure _) fun answer => k.pure _
  · exact k.pure _

theorem checkedValue (withRegistry : Bool) (arguments : List Value) :
    k.Has (checkedValue withRegistry arguments) := by
  unfold ConfigVars.checkedValue
  split
  · split
    · exact k.pure _
    · exact k.throw _
  · split
    · exact k.throw _
    · exact k.pure _
  · exact k.throw _

theorem givenProblem (withRegistry : Bool) (arguments : List Value) :
    k.Has (givenProblem withRegistry arguments) := by
  unfold ConfigVars.givenProblem
  split
  · split
    · exact k.throw _
    · exact k.pure _
  · exact k.throw _

/-- Callables are of a kind when those that they call are. -/
theorem answer (h : k.Calls call) : k.Calls (Callable.answer call) := by
  intro c withRegistry arguments hallows
  cases c with
  | script s =>
    obtain ⟨x, hx, hhas⟩ := h.script_behind s arguments
    show k.Has (s.run call arguments)
    rw [hx]
    exact k.bind (k.called _ hallows) fun _ => hhas
  | recorder => exact k.bind (givenProblem _ _) fun p => k.bind (k.told _) fun _ => k.pure _
  | collector => exact k.bind (givenProblem _ _) fun p => k.bind (k.collect p) fun _ => k.pure _
  | truthWords => exact k.bind (checkedValue _ _) fun v => k.pure _
  | choices among cast =>
    exact k.bind (checkedValue _ _) fun v => k.bind (orFailure _) fun b => k.pure _
  | validator v =>
    cases v with
    | search p => exact k.bind (checkedValue _ _) fun v => k.pure _
    | predicate c' =>
      exact k.bind (checkedValue _ _) fun _ => k.bind (h c' _ _ hallows) fun reply => k.pure _

end Calls

/-- **Callables are of every kind**, however deep they call each other. -/
theorem calls (k : RunKind) (depth : Nat) : k.Calls (Callable.call depth) := by
  induction depth with
  | zero => exact fun _ _ _ _ => k.throw _
  | succ depth ih => exact ih.answer

end RunKind

end ConfigVars
