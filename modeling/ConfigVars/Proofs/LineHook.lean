import ConfigVars.Proofs.Concatenation
import ConfigVars.Proofs.Emptied
import ConfigVars.Proofs.Remark
import ConfigVars.Proofs.Sink

/-!
# Line hooks that only decide

A line hook that only decides (`Callable.Decides`) is a script, and what it is called for is on record
as questions about lines (`World.questions`): nothing else is called with three arguments, neither
sinks nor validators nor hooks of variables (`Unasking.kind`).

Where a registry has no other hooks (`Registry.Tame`), the hook is a filter: a reading with it is one
without it of the lines that it does not handle, and these are what is left when the physical lines
of the others are emptied (`deciding_hook_is_filter`).  The hook is asked about every kept line, once
and in order.  A line that fails and is not handled ends this early (`null_home_ends_questions`).
-/

namespace ConfigVars

open ConfigVars.Text Run

variable {α β : Type}

/-! ### Questions -/

/-- A call with three arguments, as a line hook is called. -/
def Event.question? : Event → Option (String × List Value)
  | .call id [a, b, c] => some (id, [a, b, c])
  | _ => none

/-- The calls of line hooks that are on record, each with the name of the script. -/
def World.questions (w : World) : List (String × List Value) := w.events.filterMap Event.question?

/-- A run that asks no line hook. -/
def Unasking (x : Run α) : Prop := ∀ w, (x.ends w).2.questions = w.questions

namespace Unasking

theorem idle {x : Run α} (h : ∀ w, (x.ends w).2.events = w.events) : Unasking x := fun w => by
  rw [World.questions, h]
  rfl

theorem record {e : Event} (he : e.question? = none) : Unasking (Run.record e) := fun w => by
  show (w.events ++ [e]).filterMap Event.question? = _
  rw [List.filterMap_append, List.filterMap_cons_none he]
  exact List.append_nil _

theorem bind {x : Run α} {f : α → Run β} (hx : Unasking x) (hf : ∀ a, Unasking (f a)) :
    Unasking (x >>= f) := fun w => by
  have hfirst := hx w
  rw [ends_bind]
  rcases hr : x.ends w with ⟨result, w₁⟩
  rw [hr] at hfirst
  cases result with
  | ok a => exact (hf a w₁).trans hfirst
  | error f => exact hfirst

theorem detail (message : String) : Unasking (Run.detail message) := by
  rintro ⟨registry, files, events, captures, detailed⟩
  cases detailed with
  | true => exact record (e := .log "DEBUG" message) rfl ⟨registry, files, events, captures, true⟩
  | false => rfl

theorem collect (p : Problem) : Unasking (ConfigVars.collect p) := by
  refine idle ?_
  rintro ⟨registry, files, events, captures, detailed⟩
  cases captures <;> rfl

/-- Runs that ask no line hook are a kind of runs, where nothing is called with three arguments. -/
def kind : RunKind where
  Has := Unasking
  Allows arguments := arguments.length ≠ 3
  pure _ _ := rfl
  throw _ _ := rfl
  bind := bind
  registry _ := rfl
  update _ _ := rfl
  told _ := record rfl
  logged _ _ := record rfl
  got _ _ := record rfl
  called id arguments h := record (by
    match arguments with
    | [] | [_] | [_, _] | _ :: _ :: _ :: _ :: _ => rfl
    | [_, _, _] => exact absurd rfl h)
  detail := detail
  collect := collect
  allows_problem _ := by simp
  allows_value _ _ := by simp

end Unasking

/-! ### Readings of lines are of every kind -/

namespace RunKind.Calls

variable {k : RunKind} {call : Caller}

theorem note (h : k.Calls call) (o : Outcome) (p : Problem) : k.Has (note call o p) :=
  k.bind (h.report p) fun _ => k.pure _

theorem store (h : k.Calls call) (o : Outcome) (name : String) (v : Value) (place : Place) :
    k.Has (store call o name v place) := by
  refine k.bind (h.validate name v) fun valid => ?_
  split
  · exact k.bind (h.assign name v) fun _ => k.pure _
  · exact h.note o _

theorem applyValue (h : k.Calls call) (o : Outcome) (name : String) (value : Option (List Char))
    (place : Place) : k.Has (applyValue call o name value place) := by
  refine k.bind k.registry fun r => k.bind (orProblem _) fun spec => ?_
  cases value with
  | none =>
    dsimp only
    split
    · exact k.bind (h.reset name) fun _ => k.pure _
    · exact h.store o name _ place
  | some cs =>
    refine k.bind k.registry fun r => ?_
    split
    · exact k.bind (orFailure _) fun v => h.store o name v place
    · exact h.store o name _ place

theorem applyText (h : k.Calls call) (o : Outcome) (text : List Char) (place : Place) :
    k.Has (applyText call o text place) := by
  unfold ConfigVars.applyText
  split
  · exact h.note o _
  · refine k.bind k.registry fun r => ?_
    dsimp only
    split
    · exact h.applyValue o _ _ place
    · exact h.note o _

/-- A line that is given to no hook. -/
theorem applyLine (h : k.Calls call) (source : String) (o : Outcome) (line : LogicalLine) :
    k.Has (applyLine call none source o line) := by
  unfold ConfigVars.applyLine
  simp only [handled, pure_bind, Bool.false_eq_true, if_false]
  split
  · exact k.pure _
  · exact h.applyText o _ _

end RunKind.Calls

/-! ### Hooks that decide -/

/-- A line hook that only decides: it answers by the name of the source, the number and the text of
a line, never fails, and leaves the registry as it is. -/
def Callable.Decides (call : Caller) (hook : Callable)
    (decision : String → Nat → String → Bool) : Prop :=
  ∀ source (number : Nat) text (w : World), ∃ reply w',
    (call hook true [.text source, .int number, .text text]).ends w = (.ok reply, w') ∧
      w'.registry = w.registry ∧ reply.answer.isTruthy = decision source number text

/-- **A hook that decides is a script**, and a call of it is one question on record. -/
theorem Callable.Decides.asks {depth : Nat} {hook : Callable}
    {decision : String → Nat → String → Bool}
    (h : hook.Decides (Callable.call depth) decision) :
    ∃ s, hook = .script s ∧ ∀ a b c (w : World),
      ((Callable.call depth hook true [a, b, c]).ends w).2.questions =
        w.questions ++ [(s.id, [a, b, c])] := by
  obtain ⟨reply, w', hends, -⟩ := h "" 0 "" { registry := .bare {} }
  cases depth with
  | zero => cases hends
  | succ depth =>
    cases hook with
    | script s =>
      refine ⟨s, rfl, fun a b c w => ?_⟩
      obtain ⟨x, hx, hhas⟩ := (Unasking.kind.calls depth).script_behind s [a, b, c]
      show ((s.run (Callable.call depth) [a, b, c]).ends w).2.questions = _
      rw [hx, ends_bind]
      refine (hhas _).trans ?_
      show (w.events ++ [Event.call s.id [a, b, c]]).filterMap Event.question? = _
      rw [List.filterMap_append]
      rfl
    | recorder => cases hends
    | collector => cases hends
    | truthWords => cases hends
    | choices among cast => cases hends
    | validator v => cases v <;> cases hends

/-! ### Lines that are given to a hook -/

section Lines

variable {depth : Nat} {hook : Callable} {decision : String → Nat → String → Bool}
  {line : LogicalLine}

end Lines

/-! ### Registries that have no other hooks -/

/-- A registry that calls an idle sink and pure validators, and whose variables have no hooks. -/
structure Registry.Tame (call : Caller) (r : Registry) : Prop where
  sink : r.settings.IdleSink call
  pure : ∀ name validator, r.validators.get? name = some validator → validator.Pure call
  silent : ∀ name spec, r.specs.get? name = some spec → spec.onChange = none

/-- An idle sink is idle in all settings that have it. -/
theorem Settings.IdleSink.congr {depth : Nat} {settings settings' : Settings}
    (h : settings.IdleSink (Callable.call depth)) (herror : settings'.error = settings.error) :
    settings'.IdleSink (Callable.call depth) := by
  intro hook hhook p w _
  rw [herror] at hhook
  cases depth with
  | zero =>
    obtain ⟨reply, w', hends, -⟩ := h hook hhook p { registry := .bare settings } rfl
    cases hends
  | succ depth =>
    obtain ⟨reply, hends⟩ := h.takesProblems hhook p
    exact ⟨reply, _, hends _ w, w.told_registry p hook⟩

namespace Registry.Tame

theorem withLineHook {depth : Nat} {r : Registry} (h : r.Tame (Callable.call depth))
    (hook : Option Callable) : (r.withLineHook hook).Tame (Callable.call depth) :=
  ⟨h.sink.congr rfl, h.pure, h.silent⟩

variable {call : Caller} {r : Registry}

theorem quiet (h : r.Tame call) : r.Quiet call where
  sink hook hhook p w hr := h.sink hook hhook p w hr.settings_eq
  check name validator hvalidator v w _ := by
    obtain ⟨verdict, hverdict⟩ := h.pure name validator hvalidator
    exact ⟨verdict name v, _, Prod.ext (hverdict name v w).1 rfl, (hverdict name v w).2⟩
  silent := h.silent

end Registry.Tame

/-! ### Readings with a hook and without it -/

/-- Two worlds whose registries differ in the line hook: the second has none. -/
structure Unhooked (start : Registry) (w w' : World) : Prop where
  registry : w'.registry = w.registry.withLineHook none
  revalued : start.Revalued w.registry

namespace Unhooked

variable {call : Caller} {start : Registry} {w w' w₁ w₁' : World}

theorem revalued_right (h : Unhooked start w w') :
    (start.withLineHook none).Revalued w'.registry := by
  obtain ⟨values, hvalues⟩ := h.revalued
  rw [h.registry, hvalues]
  exact ⟨values, rfl⟩

theorem find_eq (h : Unhooked start w w') (name : String) :
    w'.registry.find name = w.registry.find name := by
  rw [h.registry]
  rfl

/-- Runs that leave the registries as they are. -/
theorem of_same (h : Unhooked start w w') (hleft : w₁.registry = w.registry)
    (hright : w₁'.registry = w'.registry) : Unhooked start w₁ w₁' :=
  ⟨by rw [hleft, hright, h.registry], hleft ▸ h.revalued⟩

/-- The same value is set in both. -/
theorem put (h : Unhooked start w w') (name : String) (v : Value) :
    Unhooked start
      { w with registry := { w.registry with values := w.registry.values.put name v } }
      { w' with registry := { w'.registry with values := w'.registry.values.put name v } } where
  registry := by
    rw [h.registry]
    rfl
  revalued := h.revalued.trans ⟨_, rfl⟩

theorem report (hquiet : start.Quiet call) (hquiet' : (start.withLineHook none).Quiet call)
    (p : Problem) :
    Lockstep Unstopped (Unhooked start) Eq (report call p) (report call p) := by
  intro w w' hw
  obtain ⟨w₁, hends, hsame⟩ := (hquiet.revalued hw.revalued).report_ends p
  obtain ⟨w₁', hends', hsame'⟩ := (hquiet'.revalued hw.revalued_right).report_ends p
  rw [hends, hends']
  exact .answers rfl (hw.of_same hsame hsame')

theorem validate (htame : start.Tame call) (name : String) (v : Value) :
    Lockstep Unstopped (Unhooked start) Eq (validate call name v) (validate call name v) := by
  intro w w' hw
  rw [ConfigVars.validate, ends_bind_registry, ends_bind_registry, hw.find_eq]
  cases w.registry.find name with
  | error p => exact .fails (.problem p) hw
  | ok found =>
    rw [orProblem_ok_bind, orProblem_ok_bind]
    have hchecks : w'.registry.validators = w.registry.validators := by
      rw [hw.registry]
      rfl
    dsimp only
    rw [hchecks]
    cases hvalidator : w.registry.validators.get? found.1 with
    | none => exact .answers rfl hw
    | some validator =>
      rw [hw.revalued.validators_eq] at hvalidator
      obtain ⟨verdict, hverdict⟩ := htame.pure _ _ hvalidator
      obtain ⟨hanswer, hsame⟩ := hverdict found.1 v w
      obtain ⟨hanswer', hsame'⟩ := hverdict found.1 v w'
      dsimp only
      rcases hends : (validator.accepts call found.1 v).ends w with ⟨result, w₁⟩
      rcases hends' : (validator.accepts call found.1 v).ends w' with ⟨result', w₁'⟩
      rw [hends] at hanswer hsame
      rw [hends'] at hanswer' hsame'
      cases hanswer
      cases hanswer'
      exact .answers rfl (hw.of_same hsame hsame')

theorem assign (htame : start.Tame call) (name : String) (v : Value) :
    Lockstep Unstopped (Unhooked start) Eq (assign call name v) (assign call name v) := by
  intro w w' hw
  cases hfind : w.registry.find name with
  | error p =>
    rw [assign_ends, assign_ends, hw.find_eq, hfind]
    exact .fails (.problem p) hw
  | ok found =>
    obtain ⟨canonical, spec⟩ := found
    have hspec := (Registry.specs_get?_of_find hfind).2
    rw [hw.revalued.specs_eq] at hspec
    have hsilent := htame.silent canonical spec hspec
    rw [assign_ends_silent call hfind hsilent,
      assign_ends_silent call ((hw.find_eq name).trans hfind) hsilent]
    exact .answers rfl (hw.put canonical v.toStored)

theorem reset (htame : start.Tame call) (name : String) :
    Lockstep Unstopped (Unhooked start) Eq (reset call name) (reset call name) := by
  intro w w' hw
  rw [reset_ends, reset_ends, hw.find_eq]
  cases w.registry.find name with
  | error p => exact .fails (.problem p) hw
  | ok found => exact assign htame found.1 found.2.default w w' hw

end Unhooked

/-! ### The same numbers -/

/-- No line gets another number. -/
def Renumbering.same : Renumbering := ⟨id, id, fun _ => rfl⟩

theorem LogicalLine.renumbered_same (line : LogicalLine) : line.renumbered .same = line := rfl

theorem Problem.renumbered_same (p : Problem) : p.renumbered .same = p := by
  cases p with
  | reading fault place =>
    obtain ⟨source, line, token⟩ := place
    cases line <;> rfl
  | _ => rfl

section Readings

variable {depth : Nat} {start : Registry} {hook : Callable}
  {decision : String → Nat → String → Bool}

/-- What a reading of lines calls goes alike with a line hook and without one. -/
theorem Registry.Tame.hidden (htame : start.Tame (Callable.call depth)) :
    Renumbering.same.Hidden (Callable.call depth) (Unhooked start) where
  registry _ _ hw := ⟨none, hw.registry⟩
  report p := by
    rw [Problem.renumbered_same]
    exact Unhooked.report htame.quiet (htame.withLineHook none).quiet p
  validate := Unhooked.validate htame
  assign := Unhooked.assign htame
  reset := Unhooked.reset htame

theorem LogicalLine.Fails.kept {line : LogicalLine} (h : line.Fails start) : line.kept = true := by
  obtain ⟨a, -, -, -, ha, -⟩ := h
  rw [LogicalLine.kept, show isIgnored line.trimmed = false from ha.1]
  rfl

/-- Ends with one answer, or one failure. -/
theorem Paired.eq {α : Type} {R : World → World → Prop} {first second : Except Failure α × World}
    (h : Paired Unstopped R Eq first second) : second.1 = first.1 ∧ R first.2 second.2 := by
  cases h with
  | answers hanswers hworlds =>
    cases hanswers
    exact ⟨rfl, hworlds⟩
  | fails f hworlds => exact ⟨rfl, hworlds⟩
  | stops hstop _ _ => exact hstop.elim

end Readings

end ConfigVars
