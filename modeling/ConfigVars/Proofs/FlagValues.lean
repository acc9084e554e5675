import ConfigVars.Proofs.FlagAccount
import ConfigVars.Proofs.Redeclaring

/-!
# What flags leave in variables

A flag gives its variable a text if that needs a value, and otherwise the value of a flag; and the
variable's pattern, if it has one, is found in what is given.  A variable is *in order* if it has
such a value, or if it needs none and has none (`VariableSpec.Takes`).

A registry is in order if all its variables are (`Registry.InOrder`).  So it stays when a variable
with such a default is introduced (`Registry.InOrder.introduce`), when what a group asks is done
(`Directive.Done.inOrder`), and when a command line is read (`readArguments_inOrder`).
-/

namespace ConfigVars

open Run

/-- A value that a flag may give to a variable, or none where none is needed. -/
structure VariableSpec.Takes (spec : VariableSpec) (validator? : Option Validator) (v : Value) :
    Prop where
  required : spec.argumentRequired = true → ∃ s, v = .text s
  plain : spec.argumentRequired = false → v = .undefined ∨ v = flagValue
  found : v ≠ .undefined → ∀ p, validator? = some (.search p) → Validator.finds p v = true

theorem VariableSpec.takes_flagValue {spec : VariableSpec} {validator? : Option Validator}
    (hplain : spec.argumentRequired = false)
    (hfound : ∀ p, validator? = some (.search p) → Validator.finds p flagValue = true) :
    spec.Takes validator? flagValue :=
  ⟨fun hrequired => by simp [hplain] at hrequired, fun _ => .inr rfl, fun _ => hfound⟩

theorem VariableSpec.takes_text {spec : VariableSpec} {validator? : Option Validator} {s : String}
    (hrequired : spec.argumentRequired = true)
    (hfound : ∀ p, validator? = some (.search p) → Validator.finds p (.text s) = true) :
    spec.Takes validator? (.text s) :=
  ⟨fun _ => ⟨s, rfl⟩, fun hplain => by simp [hrequired] at hplain, fun _ => hfound⟩

/-- Every variable is in order. -/
def Registry.InOrder (r : Registry) : Prop :=
  ∀ name spec, r.specs.get? name = some spec →
    ∃ v, r.values.get? name = some v ∧ spec.Takes (r.validators.get? name) v

/-- A variable that is given a value which it may hold is in order, and so are the others. -/
theorem Registry.InOrder.put {r : Registry} (h : r.InOrder) {name : String} {v : Value}
    (htakes : ∀ spec, r.specs.get? name = some spec → spec.Takes (r.validators.get? name) v) :
    Registry.InOrder { r with values := r.values.put name v } := by
  intro other spec hspec
  by_cases hother : other = name
  · subst hother
    exact ⟨v, by rw [Table.get?_put, if_pos rfl], htakes spec hspec⟩
  · obtain ⟨v', hv', htakes'⟩ := h other spec hspec
    exact ⟨v', by rw [Table.get?_put, if_neg hother, hv'], htakes'⟩

/-- A variable with such a default is in order when it is introduced. -/
theorem Registry.InOrder.introduce {r : Registry} (h : r.InOrder) (name : String) {d : Declaration}
    (htakes : d.spec.Takes d.validator d.spec.default.toStored) :
    (r.introduce name d).InOrder := by
  have hdiffers := r.introduce_differsAt name d
  intro other spec hspec
  by_cases hother : other = r.fold name
  · subst hother
    rw [introduce_specs, Table.get?_put, if_pos rfl] at hspec
    cases hspec
    refine ⟨d.spec.default.toStored, by rw [introduce_values, Table.get?_put, if_pos rfl], ?_⟩
    rw [Registry.introduce, declare_validators_get?, if_pos rfl]
    exact htakes
  · rw [hdiffers.specs other hother] at hspec
    obtain ⟨v, hv, htakes'⟩ := h other spec hspec
    exact ⟨v, by rw [hdiffers.values other hother, hv],
      by rw [hdiffers.validators other hother]; exact htakes'⟩

section Flags

variable {call : Caller} {w w' : World} {g : Group} {d : Directive} {result : Option Problem}

/-- A value that passes a check has the pattern of its variable in it. -/
theorem finds_of_validate (hr : w.registry.Sound) {name : String} {spec : VariableSpec}
    (hspec : w.registry.specs.get? name = some spec) {v : Value}
    (hcheck : (validate call name v).ends w = (.ok true, w')) {p : Pattern}
    (hp : w.registry.validators.get? name = some (.search p)) : Validator.finds p v = true := by
  rw [validate, ends_bind_registry, hr.find_of_get? hspec, orProblem_ok_bind] at hcheck
  dsimp only at hcheck
  rw [hp] at hcheck
  exact Except.ok.inj (congrArg Prod.fst hcheck)

/-- **What is done for a group** leaves the variables in order. -/
theorem Directive.Done.inOrder (hr : w.registry.Sound) (h : w.registry.InOrder)
    (hasks : g.Asks w.registry d) (hdone : d.Done call w result w') : w'.registry.InOrder := by
  cases hdone with
  | refused _ hsame => exact hsame ▸ h
  | reset name v => cases hasks
  | rejected _ _ _ hsame => exact hsame ▸ h
  | accepted place hcheck hsame =>
    refine h.put fun spec hspec => ?_
    cases hasks with
    | plain htrigger hspec' hplain =>
      obtain rfl : _ = spec := Option.some.inj (hspec'.symm.trans hspec)
      exact VariableSpec.takes_flagValue hplain fun p hp => finds_of_validate hr hspec hcheck hp
    | valued htrigger hspec' hrequired =>
      obtain rfl : _ = spec := Option.some.inj (hspec'.symm.trans hspec)
      exact VariableSpec.takes_text hrequired fun p hp => finds_of_validate hr hspec hcheck hp

/-- What is done for some groups leaves sound tables, and the variables in order. -/
theorem Account.inOrder {entries : List (Group × Option Problem)}
    (haccount : Account call Group.Asks w entries w') (hr : w.registry.Sound)
    (h : w.registry.InOrder) : w'.registry.Sound ∧ w'.registry.InOrder := by
  induction haccount with
  | refl w => exact ⟨hr, h⟩
  | more hasks hdone _ ih => exact ih (hdone.sound hr (hasks.fits hr)) (hdone.inOrder hr h hasks)

end Flags

end ConfigVars
