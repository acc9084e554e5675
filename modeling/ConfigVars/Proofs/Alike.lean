import ConfigVars.Calling
import ConfigVars.Ingestion.CommandLine

/-!
# Runs that go alike

`Run.ends` is how a run ends from a world: with an answer or a failure, and with the world that it
leaves in either case.  `Answers` says something about every answer of a run.

Two runs go *alike* (`Alike P`) when from every world whose registry has the property `P` they end
in the same way, and the world that they leave has it again.  The two runs are mostly one operation
under two callers.  With the same caller twice, this says that the operation keeps `P`, also when it
fails; with two callers that agree only where `P` holds, it says that the operation calls nothing
where `P` does not hold.

An operation goes alike when what it calls does: the sink and the hooks of variables of a registry
with `P` (`WritesAlike`), and for some operations its validators and the hooks of its settings
(`HooksAlike`).  The operations that write to the tables ask moreover that `P` survives what they
write.  The readings of files and of command lines write only by storing a
checked value and by resetting a variable, so they ask no more than that these two go alike
(`Ingests`).
-/

namespace ConfigVars

open Run

variable {α β : Type}

namespace Run

/-! ### How a run ends -/

/-- How a run ends from a world. -/
def ends (x : Run α) (w : World) : Except Failure α × World := x.run.run w

@[simp] theorem ends_pure (a : α) (w : World) : (pure a : Run α).ends w = (.ok a, w) := rfl

/-- A run goes on from where another has ended, unless that has failed. -/
theorem ends_bind (x : Run α) (f : α → Run β) (w : World) :
    (x >>= f).ends w =
      match x.ends w with
      | (.ok a, w') => (f a).ends w'
      | (.error e, w') => (.error e, w') := by
  unfold ends
  simp only [ExceptT.run_bind, StateT.run_bind]
  rcases x.run.run w with ⟨r, w'⟩
  cases r <;> rfl

/-- Nothing is done for a result that is there. -/
theorem orProblem_ok_bind (a : α) (f : α → Run β) : (orProblem (.ok a) >>= f) = f a :=
  pure_bind a f

@[simp] theorem ends_bind_registry (f : Registry → Run β) (w : World) :
    (registry >>= f).ends w = (f w.registry).ends w := rfl

end Run

/-! ### What a run answers -/

/-- Every answer of a run has a property. -/
def Answers (Q : α → Prop) (x : Run α) : Prop :=
  ∀ w a, (x.ends w).1 = .ok a → Q a

namespace Answers

variable {Q : β → Prop}

theorem pure {b : β} (h : Q b) : Answers Q (Pure.pure b) := by
  intro w a ha
  cases ha
  exact h

theorem bind {x : Run α} {f : α → Run β} (hf : ∀ a, Answers Q (f a)) : Answers Q (x >>= f) := by
  intro w b hb
  rw [ends_bind] at hb
  rcases hx : x.ends w with ⟨r, w'⟩
  rw [hx] at hb
  cases r with
  | ok a => exact hf a w' b hb
  | error e => cases hb

end Answers

/-! ### Going alike -/

/-- Two runs end in the same way from every world whose registry has a property, and leave a world
whose registry has it. -/
def Alike (P : Registry → Prop) (x y : Run α) : Prop :=
  ∀ w, P w.registry → x.ends w = y.ends w ∧ P (x.ends w).2.registry

namespace Alike

variable {P : Registry → Prop}

/-- A run that leaves the registry as it is. -/
theorem idle {x : Run α} (h : ∀ w, (x.ends w).2.registry = w.registry) : Alike P x x :=
  fun w hw => ⟨rfl, (h w).symm ▸ hw⟩

theorem pure (a : α) : Alike P (Pure.pure a) (Pure.pure a) := idle fun _ => rfl

theorem throw (f : Failure) : Alike (α := α) P (throw f) (throw f) := idle fun _ => rfl

theorem bind {x y : Run α} {f g : α → Run β} (hx : Alike P x y)
    (hf : ∀ a, Alike P (f a) (g a)) : Alike P (x >>= f) (y >>= g) := by
  intro w hw
  obtain ⟨heq, hP⟩ := hx w hw
  rw [ends_bind, ends_bind, ← heq]
  rcases hr : x.ends w with ⟨r, w'⟩
  rw [hr] at hP
  cases r with
  | ok a => exact hf a w' hP
  -- a failure ends the whole, with the property where it was left
  | error e => exact ⟨rfl, hP⟩

/-- What comes after a look at the registry may count on the property of what was seen. -/
theorem bind_registry {f g : Registry → Run β} (hf : ∀ r, P r → Alike P (f r) (g r)) :
    Alike P (registry >>= f) (registry >>= g) := by
  intro w hw
  exact hf w.registry hw w hw

theorem get : Alike P (MonadState.get : Run World) MonadState.get := idle fun _ => rfl

theorem record (e : Event) : Alike P (record e) (record e) := idle fun _ => rfl

theorem update {f : Registry → Registry} (hf : ∀ r, P r → P (f r)) :
    Alike P (update f) (Run.update f) := fun w hw => ⟨rfl, hf w.registry hw⟩

theorem orProblem : (x : Except Problem α) → Alike P (orProblem x) (Run.orProblem x)
  | .ok a => Alike.pure a
  | .error p => Alike.throw (.problem p)

theorem orFailure : (x : Except Failure α) → Alike P (orFailure x) (Run.orFailure x)
  | .ok a => Alike.pure a
  | .error f => Alike.throw f

/-- What comes after a result may count on it. -/
theorem orFailure_bind {x : Except Failure α} {f g : α → Run β}
    (hf : ∀ a, x = .ok a → Alike P (f a) (g a)) :
    Alike P (Run.orFailure x >>= f) (Run.orFailure x >>= g) := by
  cases x with
  | ok a => exact hf a rfl
  | error e => exact Alike.throw e

theorem detail (message : String) : Alike P (detail message) (Run.detail message) := by
  refine get.bind fun w => ?_
  split
  · exact record _
  · exact Alike.pure ()

end Alike

/-! ### What operations call -/

/-- A hook of the settings for a whole file, a line, a command line or a flag. -/
def Settings.Reads (s : Settings) (hook : Callable) : Prop :=
  s.fileParse = some hook ∨ s.lineParse = some hook ∨ s.cmdParse = some hook ∨
    s.argParse = some hook

/-- The sink and the hooks of variables go alike under two callers, for every registry with a
property. -/
structure WritesAlike (P : Registry → Prop) (call call' : Caller) : Prop where
  sink : ∀ {r : Registry} {hook}, P r → r.settings.error = some hook → ∀ p,
    Alike P (call hook false [.problem p]) (call' hook false [.problem p])
  change : ∀ {r : Registry} {name spec hook}, P r → r.specs.get? name = some spec →
    spec.onChange = some hook → ∀ arguments,
      Alike P (call hook true arguments) (call' hook true arguments)

/-- Whatever a registry with a property calls goes alike under two callers. -/
structure HooksAlike (P : Registry → Prop) (call call' : Caller) : Prop
    extends WritesAlike P call call' where
  check : ∀ {r : Registry} {name hook}, P r → r.validators.get? name = some (.predicate hook) →
    ∀ v, Alike P (call hook false [.text name, v]) (call' hook false [.text name, v])
  reading : ∀ {r : Registry} {hook}, P r → r.settings.Reads hook → ∀ arguments,
    Alike P (call hook true arguments) (call' hook true arguments)

/-- A variable may take any value. -/
def Settable (P : Registry → Prop) : Prop :=
  ∀ {r : Registry} {name : String} (v : Value), P r → r.specs.contains name = true →
    P { r with values := r.values.put name v.toStored }

/-- A name that is found is the one of a declaration. -/
theorem Registry.specs_get?_of_find {r : Registry} {name canonical : String}
    {spec : VariableSpec} (h : r.find name = .ok (canonical, spec)) :
    canonical = r.resolve name ∧ r.specs.get? canonical = some spec := by
  unfold find at h
  split at h
  · rename_i found hs
    cases h
    exact ⟨rfl, hs⟩
  · cases h

/-! ### Operations on variables -/

/-- An assignment looks the name up, stores the value, and calls the variable's hook. -/
theorem assign_ends (call : Caller) (name : String) (v : Value) (w : World) :
    (assign call name v).ends w =
      match w.registry.find name with
      | .error p => (.error (.problem p), w)
      | .ok (canonical, spec) =>
        Run.ends
          (match spec.onChange with
          | some hook => do return (← call hook true [.text canonical, v.toGiven]).answer
          | none => return .bool true)
          { w with
            registry :=
              { w.registry with values := w.registry.values.put canonical v.toStored } } := by
  rw [assign, ends_bind_registry]
  cases w.registry.find name <;> rfl

/-- A reset looks the name up and assigns the default to what is found. -/
theorem reset_ends (call : Caller) (name : String) (w : World) :
    (reset call name).ends w =
      match w.registry.find name with
      | .error p => (.error (.problem p), w)
      | .ok (canonical, spec) => (assign call canonical spec.default).ends w := by
  rw [reset, ends_bind_registry]
  cases w.registry.find name <;> rfl

/-- An assignment to a variable without a hook stores the value and does nothing else. -/
theorem assign_ends_silent (call : Caller) {name canonical : String} {spec : VariableSpec}
    {w : World} (hfind : w.registry.find name = .ok (canonical, spec))
    (hsilent : spec.onChange = none) (v : Value) :
    (assign call name v).ends w =
      (.ok (.bool true),
        { w with
          registry :=
            { w.registry with values := w.registry.values.put canonical v.toStored } }) := by
  rw [assign_ends, hfind]
  dsimp only
  rw [hsilent]
  rfl

/-- A reset of a variable without a hook stores the default and does nothing else. -/
theorem reset_ends_silent (call : Caller) {name canonical : String} {spec : VariableSpec}
    {w : World} (hfind : w.registry.find name = .ok (canonical, spec))
    (hself : w.registry.find canonical = .ok (canonical, spec)) (hsilent : spec.onChange = none) :
    (reset call name).ends w =
      (.ok (.bool true),
        { w with
          registry := { w.registry with
            values := w.registry.values.put canonical spec.default.toStored } }) := by
  rw [reset_ends, hfind]
  exact assign_ends_silent call hself hsilent spec.default

/-- A report succeeds and leaves the registry as it is when the error sink does. -/
theorem report_ends (call : Caller) {w : World} {p : Problem}
    (hsink : ∀ hook, w.registry.settings.error = some hook →
      ∃ reply w', (call hook false [.problem p]).ends w = (.ok reply, w') ∧
        w'.registry = w.registry) :
    ∃ w', (report call p).ends w = (.ok (), w') ∧ w'.registry = w.registry := by
  rw [report, ends_bind_registry]
  cases herror : w.registry.settings.error with
  | none => exact ⟨_, rfl, rfl⟩
  | some hook =>
    obtain ⟨reply, w', hends, hsame⟩ := hsink hook herror
    refine ⟨w', ?_, hsame⟩
    dsimp only
    rw [ends_bind, hends]
    rfl

/-- A declaration is entered into the tables before anything is reported or set. -/
theorem define_ends (call : Caller) (name : String) (options : List (Value × Value))
    (keywords : List (String × Value)) (w : World) :
    (define call name options keywords).ends w =
      match Declaration.ofOptions w.registry.globals (givenOptions options keywords) with
      | .error f => (.error f, w)
      | .ok d =>
        Run.ends (do
            reportAll call (d.problems ++ (w.registry.declare name d).2)
            detail ("Defined variable " ++ Text.quoted (w.registry.fold name) ++ " (aliases=" ++
              shownTexts d.spec.aliases ++ ", triggers=" ++
              shownTexts (d.spec.triggerTokens name) ++ ")")
            let _ ← reset call (w.registry.fold name)
            return w.registry.fold name)
          { w with registry := (w.registry.declare name d).1 } := by
  rw [define, ends_bind_registry]
  cases Declaration.ofOptions w.registry.globals (givenOptions options keywords) <;> rfl

variable {P : Registry → Prop} {call call' : Caller}

namespace WritesAlike

theorem assign (h : WritesAlike P call call') (hset : Settable P) (name : String) (v : Value) :
    Alike P (assign call name v) (ConfigVars.assign call' name v) := by
  intro w hw
  rw [assign_ends, assign_ends]
  cases hfind : w.registry.find name with
  | error p => exact ⟨rfl, hw⟩
  | ok found =>
    obtain ⟨canonical, spec⟩ := found
    have hspec := (Registry.specs_get?_of_find hfind).2
    have hnext := hset v hw (Option.isSome_of_eq_some hspec)
    dsimp only
    cases hhook : spec.onChange with
    | none => exact ⟨rfl, hnext⟩
    | some hook =>
      -- the hook is called with the value in place
      refine Alike.bind (h.change hw hspec hhook _) (fun reply => Alike.pure reply.answer) _ ?_
      exact hnext

theorem reset (h : WritesAlike P call call') (hset : Settable P) (name : String) :
    Alike P (reset call name) (ConfigVars.reset call' name) := by
  refine Alike.bind_registry fun r _ => (Alike.orProblem _).bind fun found => ?_
  exact h.assign hset _ _

theorem report (h : WritesAlike P call call') (p : Problem) :
    Alike P (report call p) (ConfigVars.report call' p) := by
  refine Alike.bind_registry fun r hr => ?_
  cases hs : r.settings.error with
  | none => exact Alike.record _
  | some sink => exact (h.sink hr hs p).bind fun _ => Alike.pure ()

theorem reportAll (h : WritesAlike P call call') (ps : List Problem) :
    Alike P (reportAll call ps) (ConfigVars.reportAll call' ps) := by
  induction ps with
  | nil => exact Alike.pure ()
  | cons p rest ih => exact (h.report p).bind fun _ => ih

/-- A declaration goes alike when the property survives it. -/
theorem define (h : WritesAlike P call call') (hset : Settable P) (name : String)
    (options : List (Value × Value)) (keywords : List (String × Value))
    (hdeclare : ∀ {r d}, P r →
      Declaration.ofOptions r.globals (givenOptions options keywords) = .ok d →
        P (r.declare name d).1) :
    Alike P (define call name options keywords)
      (ConfigVars.define call' name options keywords) := by
  intro w hw
  rw [define_ends, define_ends]
  cases hmade : Declaration.ofOptions w.registry.globals (givenOptions options keywords) with
  | error f => exact ⟨rfl, hw⟩
  | ok d =>
    refine (Alike.bind (h.reportAll _) fun _ => (Alike.detail _).bind fun _ => ?_) _
      (hdeclare hw hmade)
    exact (h.reset hset _).bind fun _ => Alike.pure _

/-- An alias goes alike when the property survives one that is no variable. -/
theorem addAlias (h : WritesAlike P call call') (name target : String)
    (halias : ∀ {r : Registry}, P r → r.specs.contains (r.fold name) = false →
      P { r with aliases := r.aliases.put (r.fold name) (r.fold target) }) :
    Alike P (addAlias call name target) (ConfigVars.addAlias call' name target) := by
  intro w hw
  rw [ConfigVars.addAlias, ConfigVars.addAlias, ends_bind_registry, ends_bind_registry]
  split
  · exact ((h.report _).bind fun _ => Alike.pure false) w hw
  · rename_i hfree
    exact ⟨rfl, halias hw (Bool.eq_false_iff.mpr hfree)⟩

end WritesAlike

theorem HooksAlike.validate (h : HooksAlike P call call') (name : String) (v : Value) :
    Alike P (validate call name v) (ConfigVars.validate call' name v) := by
  refine Alike.bind_registry fun r hr => (Alike.orProblem _).bind fun ⟨canonical, _⟩ => ?_
  simp only
  cases hv : r.validators.get? canonical with
  | none => exact Alike.pure true
  | some validator =>
    cases validator with
    | search p => exact Alike.pure _
    | predicate c =>
      exact (h.check hr hv _).bind fun reply => Alike.pure reply.answer.isTruthy

end ConfigVars
