import ConfigVars.Proofs.ReadingInStep
import ConfigVars.Proofs.Spelling

/-!
# Requests

A program asks a registry for one thing after the other, and is answered (`Request`).  Names, the
names in options, those that lines start with, and flags may be written in another way
(`Request.Like`).  Requests that are alike go in lockstep, and their answers are the same up to the
writing of names in problems and in arguments that are left (`Request.inStep`).

Callables go in lockstep when the reports do, however deep they call each other
(`InStep.of_reports`).
-/

namespace ConfigVars

open Run

variable {same : String → String → Prop} {files files' : FileTree} {settings : Settings}
  {stop : Failure → Prop} {R : World → World → Prop} {call : Caller}

/-! ### Callables -/

theorem Lockstep.withLastList {arguments : List Value}
    {change change' : List Value → Run (List Value)}
    (h : ∀ items, Lockstep stop R Eq (change items) (change' items)) :
    Lockstep stop R Eq (withLastList arguments change)
      (ConfigVars.withLastList arguments change') := by
  unfold ConfigVars.withLastList
  split
  · exact (h _).bind_eq fun _ => .pure rfl
  · exact .throw _
  · exact .throw _

theorem Lockstep.checkedValue (withRegistry : Bool) (arguments : List Value) :
    Lockstep stop R Eq (checkedValue withRegistry arguments)
      (ConfigVars.checkedValue withRegistry arguments) := by
  unfold ConfigVars.checkedValue
  repeat' split
  all_goals first | exact .pure rfl | exact .throw _

/-- What is not called to take a problem is given none. -/
theorem givenProblem_fails (withRegistry : Bool) {arguments : List Value}
    (h : ∀ p, arguments ≠ [.problem p]) :
    givenProblem withRegistry arguments = throw .wrongKind := by
  unfold givenProblem
  split
  · exact absurd rfl (h _)
  · rfl

namespace InStep

section Callables

variable (h : InStep same files files' settings stop R call)
include h

theorem instruction (arguments : List Value) (i : Instruction) :
    Lockstep stop R Eq (i.run call arguments) (i.run call arguments) := by
  have hassign : ∀ name v, Lockstep stop R Eq (ConfigVars.assign call name v)
      (ConfigVars.assign call name v) := fun name v => h.assign (h.orthography.refl name) v
  cases i with
  | set name v => exact (hassign name v).bind_eq fun _ => .pure rfl
  | copy name index =>
    exact (Lockstep.orFailure _).bind_eq fun v => (hassign name v).bind_eq fun _ => .pure rfl
  | get name =>
    refine .bind_registry fun w w' hw => ?_
    rw [Registry.get, Registry.get, (h.like hw).stored_eq (h.folds hw) (h.orthography.refl name)]
    exact (Lockstep.orProblem _).bind_eq fun v =>
      (h.record (e := .got name v) trivial).bind_eq fun _ => .pure rfl
  | define name options =>
    exact (h.define (h.orthography.refl name) (forall₂_refl .refl options) .nil).bind_eq fun _ =>
      .pure rfl
  | pop name? =>
    refine .withLastList fun items => ?_
    cases items with
    | nil => exact .throw _
    | cons front rest =>
      cases name? with
      | none => exact .pure rfl
      | some name => exact (hassign name front).bind_eq fun _ => .pure rfl
  | push values => exact .withLastList fun items => .pure rfl
  | clear => exact .withLastList fun items => .pure rfl

theorem instructions (arguments : List Value) (is : List Instruction) :
    Lockstep stop R Eq (Instruction.runAll call arguments is)
      (Instruction.runAll call arguments is) := by
  induction is generalizing arguments with
  | nil => exact .pure rfl
  | cons i rest ih => exact (h.instruction arguments i).bind_eq fun left => ih left

theorem script (s : Script) {arguments : List Value} (hargs : ∀ p, arguments ≠ [.problem p]) :
    Lockstep stop R Eq (s.run call arguments) (s.run call arguments) := by
  refine (h.record (e := .call s.id arguments) hargs).bind_eq fun _ =>
    (Lockstep.orFailure _).bind_eq fun runs => ?_
  split
  · refine (h.instructions arguments s.body).bind_eq fun left => ?_
    split
    · exact .throw _
    · exact (Lockstep.orFailure _).bind_eq fun _ => .pure rfl
  · exact .pure rfl

/-- **A callable goes in lockstep** when those that it calls do, unless it is called with a
problem. -/
theorem answer (c : Callable) (withRegistry : Bool) (arguments : List Value)
    (hargs : ∀ p, arguments ≠ [.problem p]) :
    Lockstep stop R Eq (Callable.answer call c withRegistry arguments)
      (Callable.answer call c withRegistry arguments) := by
  cases c with
  | script s => exact h.script s hargs
  | recorder =>
    rw [Callable.answer, givenProblem_fails withRegistry hargs]
    exact .throw _
  | collector =>
    rw [Callable.answer, givenProblem_fails withRegistry hargs]
    exact .throw _
  | truthWords => exact (Lockstep.checkedValue _ _).bind_eq fun _ => .pure rfl
  | choices among cast =>
    exact (Lockstep.checkedValue _ _).bind_eq fun _ =>
      (Lockstep.orFailure _).bind_eq fun _ => .pure rfl
  | validator v =>
    cases v with
    | search p => exact (Lockstep.checkedValue _ _).bind_eq fun _ => .pure rfl
    | predicate c' =>
      exact (Lockstep.checkedValue _ _).bind_eq fun _ =>
        (h.called c' withRegistry arguments hargs).bind_eq fun _ => .pure rfl

end Callables

/-- **Callables that call each other go in lockstep** when reports do, at every depth. -/
theorem of_reports (hframe : Frame same files files' settings R)
    (hreport : ∀ depth {p p' : Problem}, p.Like same p' →
      Lockstep stop R Eq (ConfigVars.report (Callable.call depth) p)
        (ConfigVars.report (Callable.call depth) p')) (depth : Nat) :
    InStep same files files' settings stop R (Callable.call depth) := by
  induction depth with
  | zero => exact ⟨hframe, hreport 0, fun _ _ _ _ => .throw _⟩
  | succ depth ih => exact ⟨hframe, hreport (depth + 1), ih.answer⟩

end InStep

/-! ### What a program asks for -/

/-- What a program asks of a registry, with what it is answered. -/
inductive Request : Type → Type 1 where
  | define (name : String) (options : List (Value × Value)) (keywords : List (String × Value)) :
      Request String
  | addAlias (name target : String) : Request Bool
  | access {α : Type} (a : Access α) (name : String) : Request α
  /-- The variable that a token of a command line sets. -/
  | trigger (token : String) : Request (Option String)
  | report (p : Problem) : Request Unit
  | readSource (s : Source) : Request Outcome
  | readArguments (argv : List Value) : Request (List Value × Outcome)

namespace Request

variable {α : Type}

/-- Does what is asked for. -/
def run (call : Caller) : Request α → Run α
  | define name options keywords => ConfigVars.define call name options keywords
  | addAlias name target => ConfigVars.addAlias call name target
  | access a name => a.run call name
  | trigger token => do return (← registry).trigger? token
  | report p => ConfigVars.report call p
  | readSource s => ConfigVars.readSource call s
  | readArguments argv => ConfigVars.readArguments call argv

/-- Requests that differ in the writing of names. -/
inductive Like (same : String → String → Prop) (endOfArgs : String) (files files' : FileTree) :
    {α : Type} → Request α → Request α → Prop where
  | define {name name' : String} (hname : same name name') {options options' : List (Value × Value)}
      (hoptions : List.Forall₂ (OptionLike same) options options')
      {keywords keywords' : List (String × Value)}
      (hkeywords : List.Forall₂ (fun e e' => OptionLike same (.text e.1, e.2) (.text e'.1, e'.2))
        keywords keywords') :
      Like same endOfArgs files files' (.define name options keywords)
        (.define name' options' keywords')
  | addAlias {name name' target target' : String} (hname : same name name')
      (htarget : same target target') :
      Like same endOfArgs files files' (.addAlias name target) (.addAlias name' target')
  | access {α : Type} (a : Access α) {name name' : String} (hname : same name name') :
      Like same endOfArgs files files' (.access a name) (.access a name')
  | trigger {token token' : String} (h : same token token') :
      Like same endOfArgs files files' (.trigger token) (.trigger token')
  | report (p : Problem) : Like same endOfArgs files files' (.report p) (.report p)
  | readSource {s s' : Source} (h : s.Like same files files' s') :
      Like same endOfArgs files files' (.readSource s) (.readSource s')
  | readArguments {argv argv' : List Value}
      (h : List.Forall₂ (ArgumentLike same endOfArgs) argv argv') :
      Like same endOfArgs files files' (.readArguments argv) (.readArguments argv')

/-- Answers that differ in the writing of names: in a declaration, in the problems of an outcome, or
in arguments that are left. -/
def AnswerLike (same : String → String → Prop) (endOfArgs : String) : Request α → α → α → Prop
  | access .spec _, spec, spec' => spec.Like same spec'
  | readSource _, o, o' => o.Like same o'
  | readArguments _, a, a' => LeftLike same endOfArgs a a'
  | _, a, a' => a = a'

theorem Like.refl (hsame : Orthography same) (endOfArgs : String) (q : Request α) :
    q.Like same endOfArgs files files q := by
  cases q with
  | define name options keywords =>
    exact .define (hsame.refl name) (forall₂_refl .refl _) (forall₂_refl (fun _ => .refl _) _)
  | addAlias name target => exact .addAlias (hsame.refl name) (hsame.refl target)
  | access a name => exact .access a (hsame.refl name)
  | trigger token => exact .trigger (hsame.refl token)
  | report p => exact .report p
  | readSource s => exact .readSource (.refl files s)
  | readArguments argv => exact .readArguments (forall₂_refl .refl argv)

/-- With the same writing, answers that are alike are equal. -/
theorem AnswerLike.eq {endOfArgs : String} {q : Request α} {a a' : α}
    (h : q.AnswerLike Eq endOfArgs a a') : a = a' := by
  cases q with
  | access a name =>
    cases a with
    | spec => exact VariableSpec.Like.eq h
    | _ => exact h
  | readSource s => exact Outcome.Like.eq h
  | readArguments argv =>
    obtain ⟨hleft, ho⟩ := h
    exact Prod.ext (forall₂_argumentLike_eq hleft) ho.eq
  | _ => exact h

end Request

section Requests

variable (h : InStep same files files' settings stop R call)
include h

theorem Access.inStep {α : Type} (a : Access α) {name name' : String}
    (hname : same name name') :
    Lockstep stop R (Request.AnswerLike same settings.endOfArgs (.access a name))
      (a.run call name) (a.run call name') := by
  cases a with
  | get =>
    refine .bind_registry fun w w' hw => ?_
    rw [Registry.get, Registry.get, (h.like hw).stored_eq (h.folds hw) hname]
    exact .orProblem _
  | hasValue =>
    refine .bind_registry fun w w' hw => ?_
    rw [Registry.hasValue, Registry.hasValue, (h.like hw).stored_eq (h.folds hw) hname]
    exact .orProblem _
  | spec => exact .bind_registry fun w w' hw => h.spec hname hw
  | validate v => exact h.validate hname v
  | set v => exact h.assign hname v
  | reset => exact h.reset hname

/-- **Requests that are alike go in lockstep**, and their answers are alike.  Where a reading has
hooks, the requests have to be the same. -/
theorem Request.inStep {α : Type} {q q' : Request α}
    (hq : q.Like same settings.endOfArgs files files' q')
    (hhooks : (∀ hook, ¬ settings.Reads hook) ∨ same = Eq ∧ q = q') :
    Lockstep stop R (q.AnswerLike same settings.endOfArgs) (q.run call) (q'.run call) := by
  cases hq with
  | define hname hoptions hkeywords => exact h.define hname hoptions hkeywords
  | addAlias hname htarget => exact h.addAlias hname htarget
  | access a hname => exact a.inStep h hname
  | trigger htoken =>
    refine .bind_registry fun w w' hw => ?_
    rw [(h.like hw).trigger?_eq (h.folds hw) htoken]
    exact .pure rfl
  | report p => exact h.report (.refl p)
  | readSource hs =>
    exact h.readSource hs (hhooks.imp_right fun ⟨heq, hq⟩ => ⟨heq, by cases hq; rfl⟩)
  | readArguments hargv => exact h.readArguments hargv (hhooks.imp_right And.left)

end Requests

end ConfigVars
