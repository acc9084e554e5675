import ConfigVars.Proofs.RunKind

/-!
# Runs that see the registry only

A run leaves records and adds problems to captures; nothing that setting and declaring variables
does, and nothing that callables do, looks at them again.  Such a run is *oblivious*
(`Oblivious`): where two worlds have one registry, it ends in one way in both, and leaves one
registry again.

Callables are oblivious, at whatever depth they call each other (`Callable.call_oblivious`), and so
are the operations on variables that call them.
-/

namespace ConfigVars

open Run

variable {α β : Type}

/-- Of a world, a run sees the registry only. -/
def Oblivious (x : Run α) : Prop :=
  ∀ w w' : World, w.registry = w'.registry →
    (x.ends w).1 = (x.ends w').1 ∧ (x.ends w).2.registry = (x.ends w').2.registry

namespace Oblivious

/-- A run that answers always the same and leaves the registry as it is. -/
theorem idle {x : Run α} {a : Except Failure α} (hanswer : ∀ w, (x.ends w).1 = a)
    (hkeep : ∀ w, (x.ends w).2.registry = w.registry) : Oblivious x := fun w w' hw =>
  ⟨(hanswer w).trans (hanswer w').symm, ((hkeep w).trans hw).trans (hkeep w').symm⟩

theorem pure (a : α) : Oblivious (Pure.pure a) := idle (fun _ => rfl) fun _ => rfl

theorem throw (f : Failure) : Oblivious (α := α) (throw f) := idle (fun _ => rfl) fun _ => rfl

theorem bind {x : Run α} {f : α → Run β} (hx : Oblivious x) (hf : ∀ a, Oblivious (f a)) :
    Oblivious (x >>= f) := by
  intro w w' hw
  obtain ⟨hanswer, hnext⟩ := hx w w' hw
  rw [ends_bind, ends_bind]
  rcases hr : x.ends w with ⟨r, w₁⟩
  rcases hr' : x.ends w' with ⟨r', w₁'⟩
  rw [hr, hr'] at hanswer hnext
  cases hanswer
  cases r with
  | ok a => exact hf a w₁ w₁' hnext
  | error e => exact ⟨rfl, hnext⟩

theorem registry : Oblivious Run.registry := fun _ _ hw => ⟨congrArg Except.ok hw, hw⟩

theorem update (f : Registry → Registry) : Oblivious (Run.update f) := fun _ _ hw =>
  ⟨rfl, congrArg f hw⟩

theorem record (e : Event) : Oblivious (Run.record e) := idle (fun _ => rfl) fun _ => rfl

/-- A detail goes into the log or not, and nothing comes of it. -/
theorem detail (message : String) : Oblivious (Run.detail message) := by
  refine idle (a := .ok ()) ?_ ?_
  all_goals
    rintro ⟨registry, files, events, captures, detailed⟩
    cases detailed <;> rfl

theorem collect (p : Problem) : Oblivious (ConfigVars.collect p) := by
  refine idle (a := .ok ()) (fun _ => rfl) ?_
  rintro ⟨registry, files, events, captures, detailed⟩
  cases captures <;> rfl

/-- Oblivious runs are a kind of runs, whatever things are called with. -/
def kind : RunKind where
  Has := Oblivious
  Allows _ := True
  pure := .pure
  throw := .throw
  bind := .bind
  registry := .registry
  update := .update
  told p := .record (.problem p)
  logged level message := .record (.log level message)
  got name v := .record (.got name v)
  called id arguments _ := .record (.call id arguments)
  detail := .detail
  collect := .collect
  allows_problem _ := trivial
  allows_value _ _ := trivial

end Oblivious

/-- Whatever is called through a caller is oblivious. -/
def Caller.Oblivious (call : Caller) : Prop :=
  ∀ c withRegistry arguments, ConfigVars.Oblivious (call c withRegistry arguments)

namespace Caller.Oblivious

variable {call : Caller}

theorem calls (h : call.Oblivious) : ConfigVars.Oblivious.kind.Calls call :=
  fun c withRegistry arguments _ => h c withRegistry arguments

theorem assign (h : call.Oblivious) (name : String) (v : Value) :
    ConfigVars.Oblivious (assign call name v) := h.calls.assign name v

theorem reset (h : call.Oblivious) (name : String) : ConfigVars.Oblivious (reset call name) :=
  h.calls.reset name

theorem validate (h : call.Oblivious) (name : String) (v : Value) :
    ConfigVars.Oblivious (validate call name v) := h.calls.validate name v

end Caller.Oblivious

/-- **Callables are oblivious.** -/
theorem Callable.call_oblivious (depth : Nat) : Caller.Oblivious (Callable.call depth) :=
  fun c withRegistry arguments => Oblivious.kind.calls depth c withRegistry arguments trivial

end ConfigVars
