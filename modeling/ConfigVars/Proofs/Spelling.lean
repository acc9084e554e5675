import ConfigVars.Proofs.AliasHops

/-!
# Spellings of a name

A program gets at a variable in six ways: it looks up the value, the presence of a value or the
declaration, it checks a value, and it sets or resets the variable (`Access`).  A variable is found
under its canonical name, under that name in any letter case if the registry folds names, and under
its aliases.

* `Access.run`: an access by a name as it is spelled.
* `Access.runAt`: the same access by the canonical name, which is what hooks and validators see.

In a sound registry the two are the same for every spelling of a name, and an access by the name of
no variable fails and leaves everything as it is.
-/

namespace ConfigVars

open Run

/-- A way of getting at a variable, with what it answers. -/
inductive Access : Type → Type where
  | get : Access Value
  | hasValue : Access Bool
  | spec : Access VariableSpec
  | validate (v : Value) : Access Bool
  | set (v : Value) : Access Value
  | reset : Access Value

namespace Access

variable {α : Type}

/-- Gets at the variable that a name stands for. -/
def run (call : Caller) (name : String) : Access α → Run α
  | .get => do orProblem ((← registry).get name)
  | .hasValue => do orProblem ((← registry).hasValue name)
  | .spec => do orProblem ((← registry).spec name)
  | .validate v => ConfigVars.validate call name v
  | .set v => assign call name v
  | .reset => ConfigVars.reset call name

/-- Gets at a variable by its canonical name. -/
def runAt (call : Caller) (canonical : String) : Access α → Run α
  | .get => do
    return Registry.answered (((← registry).values.get? canonical).getD .undefined)
  | .hasValue => do
    return Registry.isPresent (((← registry).values.get? canonical).getD .undefined)
  | .spec => do orProblem ((← registry).declared canonical)
  | .validate v => validateFor call canonical v
  | .set v => assignTo call canonical v
  | .reset => resetTo call canonical

variable {call : Caller} {name canonical : String} {spec : VariableSpec} {w : World}

/-! ### A name that is found -/

theorem declared_of_find {r : Registry} (h : r.find name = .ok (canonical, spec)) :
    r.declared canonical = .ok spec := by
  rw [Registry.declared, (Registry.specs_get?_of_find h).2]

theorem assign_ends_at (h : w.registry.find name = .ok (canonical, spec)) (v : Value) :
    (assign call name v).ends w = (assignTo call canonical v).ends w := by
  rw [assign_ends, h, assignTo, ends_bind_registry, declared_of_find h, orProblem_ok_bind]
  rfl

/-- A reset finds the variable twice, the second time by its canonical name. -/
theorem reset_ends_at (h : w.registry.find name = .ok (canonical, spec))
    (hself : w.registry.find canonical = .ok (canonical, spec)) :
    (ConfigVars.reset call name).ends w = (resetTo call canonical).ends w := by
  rw [reset_ends, h, resetTo, ends_bind_registry, declared_of_find h, orProblem_ok_bind]
  exact assign_ends_at hself spec.default

theorem validate_ends_at (h : w.registry.find name = .ok (canonical, spec)) (v : Value) :
    (ConfigVars.validate call name v).ends w = (validateFor call canonical v).ends w := by
  rw [ConfigVars.validate, validateFor, ends_bind_registry, ends_bind_registry, h]
  rfl

/-- **An access by a name is one by the canonical name**, where that is found under itself. -/
theorem run_ends (h : w.registry.find name = .ok (canonical, spec))
    (hself : w.registry.find canonical = .ok (canonical, spec)) (access : Access α) :
    (access.run call name).ends w = (access.runAt call canonical).ends w := by
  cases access with
  | get =>
    rw [run, runAt, ends_bind_registry, ends_bind_registry, Registry.get, Registry.stored, h]
    rfl
  | hasValue =>
    rw [run, runAt, ends_bind_registry, ends_bind_registry, Registry.hasValue, Registry.stored, h]
    rfl
  | spec =>
    rw [run, runAt, ends_bind_registry, ends_bind_registry, Registry.spec, h, declared_of_find h]
    rfl
  | validate v => exact validate_ends_at h v
  | set v => exact assign_ends_at h v
  | reset => exact reset_ends_at h hself

/-! ### A name that is not found -/

/-- An access by the name of no variable fails before it does anything. -/
theorem run_ends_of_unknown {p : Problem} (h : w.registry.find name = .error p)
    (access : Access α) : (access.run call name).ends w = (.error (.problem p), w) := by
  cases access with
  | get => rw [run, ends_bind_registry, Registry.get, Registry.stored, h]; rfl
  | hasValue => rw [run, ends_bind_registry, Registry.hasValue, Registry.stored, h]; rfl
  | spec => rw [run, ends_bind_registry, Registry.spec, h]; rfl
  | validate v => rw [run, ConfigVars.validate, ends_bind_registry, h]; rfl
  | set v => rw [run, assign_ends, h]
  | reset => rw [run, reset_ends, h]

end Access

namespace Registry

variable {r : Registry} {name : String}

theorem find_of_isDefined (h : r.isDefined name = true) :
    ∃ spec, r.find name = .ok (r.resolve name, spec) := by
  obtain ⟨spec, hspec⟩ := Option.isSome_iff_exists.mp h
  exact ⟨spec, by rw [find, hspec]⟩

theorem find_of_not_isDefined (h : r.isDefined name = false) :
    r.find name = .error (.unknownVariable (r.resolve name)) := by
  have hnone : r.specs.get? (r.resolve name) = none := by
    simpa [isDefined, Table.contains] using h
  rw [find, hnone]

end Registry

/-- **Every spelling of a defined name is the same variable.**  Its canonical name stands for
itself, and every access by the spelling, by the canonical name, and to the variable with that
canonical name ends in the same way, whatever is called on the way.  A reset sets the variable that
an assignment through the same spelling sets.  Every access by the name of no variable fails with
what the name stands for, and leaves the world as it is. -/
theorem every_spelling_is_one_variable (depth : Nat) {w : World}
    (hw : Reachable (Callable.call depth) w) (call : Caller) (name : String) :
    let r := w.registry
    let canonical := r.resolve name
    (r.isDefined name = true →
      r.resolve canonical = canonical ∧
      (∀ {α : Type} (access : Access α),
        (access.run call name).ends w = (access.runAt call canonical).ends w ∧
        (access.run call canonical).ends w = (access.runAt call canonical).ends w) ∧
      ∀ spec, r.spec name = .ok spec →
        (reset call name).ends w = (assign call name spec.default).ends w) ∧
    (r.isDefined name = false → ∀ {α : Type} (access : Access α),
      (access.run call name).ends w = (.error (.problem (.unknownVariable canonical)), w)) := by
  intro r canonical
  have hr : r.Sound := hw.sound
  refine ⟨fun hdef => ?_, fun hundef _ access =>
    access.run_ends_of_unknown (Registry.find_of_not_isDefined hundef)⟩
  obtain ⟨spec, hfind⟩ := Registry.find_of_isDefined hdef
  have hself : r.find canonical = .ok (canonical, spec) := (hr.find_resolve hdef).trans hfind
  refine ⟨hr.resolve_resolve hdef,
    fun access => ⟨access.run_ends hfind hself, access.run_ends hself hself⟩, fun spec' hspec => ?_⟩
  have hsame : spec' = spec := by
    rw [Registry.spec, hfind] at hspec
    cases hspec
    rfl
  subst hsame
  rw [reset_ends, hfind]
  exact (Access.assign_ends_at hself spec'.default).trans
    (Access.assign_ends_at hfind spec'.default).symm

/-- Setting the variable `one` through another case of its alias `first`. -/
theorem alias_spelling_is_the_variable :
    Reachable Caller.standard chainedSession ∧
      chainedSession.registry.isDefined "FIRST" = true ∧
      chainedSession.registry.resolve "FIRST" = "one" ∧
      (assign Caller.standard "FIRST" (.int 5)).ends chainedSession =
        (assign Caller.standard "one" (.int 5)).ends chainedSession := by
  have hdef : chainedSession.registry.isDefined "FIRST" = true := by decide +kernel
  have hone : chainedSession.registry.resolve "FIRST" = "one" := by decide +kernel
  obtain ⟨-, haccess, -⟩ :=
    (every_spelling_is_one_variable maxCallDepth chainedSession_reachable Caller.standard
      "FIRST").1 hdef
  obtain ⟨hspelled, hcanonical⟩ := haccess (.set (.int 5))
  rw [hone] at hspelled hcanonical
  exact ⟨chainedSession_reachable, hdef, hone, hspelled.trans hcanonical.symm⟩

end ConfigVars
