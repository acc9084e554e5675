import ConfigVars.Calling
import ConfigVars.Proofs.LetterCase

/-!
# Sound registries

The five tables of a registry belong together (`Registry.Sound`): every variable has a declaration
and a value in the same place, an alias is no variable, a trigger leads to a variable, a validator
is the one that the declaration asks for, names are folded, and no value is stored as nothing.

A declaration changes all five tables at once.  `declare_eq` gives the tables that it leaves, each
by itself, and everything below is read off them: a declaration, an alias and an assignment keep a
registry sound (`Sound.declare`, `Sound.addAlias`, `Sound.assign`).  In a sound registry the
canonical name of a variable stands for itself (`Sound.resolve_of_contains`).
-/

namespace ConfigVars

/-- Whether a validator, or none, is what a declaration asks for. -/
def VariableSpec.Compiles (spec : VariableSpec) : Option Validator → Prop
  | none => spec.validator = .nothing
  | some v => Validator.ofValue spec.validator = .ok v

/-! ### What options make -/

theorem build_validator (clean : Table VariableField Value) :
    (VariableSpec.build clean).1.validator = (clean.get? .validator).getD .nothing := rfl

/-- The options that are left when the validator has been taken ask for that validator. -/
theorem Declaration.takeValidator_compiles {options left : Table VariableField Value}
    {v : Option Validator} {problems : List Problem}
    (h : takeValidator options = .ok (left, v, problems)) :
    (VariableSpec.build left).1.Compiles v := by
  unfold takeValidator at h
  split at h
  · rename_i hnone
    cases h
    simp [VariableSpec.Compiles, build_validator, hnone]
  · rename_i hnothing
    cases h
    simp [VariableSpec.Compiles, build_validator, hnothing]
  · rename_i value hsome
    split at h
    · rename_i w hw
      cases h
      simpa [VariableSpec.Compiles, build_validator, hsome] using hw
    · cases h
      simp [VariableSpec.Compiles, build_validator, Table.get?_erase]
    · split at h
      · cases h
        simp [VariableSpec.Compiles, build_validator, Table.get?_erase]
      · cases h

/-- The validator of a declaration is the one that its specification asks for. -/
theorem Declaration.compiles {globals : Table VariableField Value}
    {options : List (Value × Value)} {d : Declaration} (h : ofOptions globals options = .ok d) :
    d.spec.Compiles d.validator := by
  unfold ofOptions at h
  cases ht : takeValidator (globals.overlay (VariableField.model.canonical options).1) with
  | error f => simp [ht, bind, Except.bind] at h
  | ok taken =>
    obtain ⟨left, v, more⟩ := taken
    simp only [ht, bind, Except.bind, pure, Except.pure, Except.ok.injEq] at h
    subst h
    exact takeValidator_compiles ht

namespace Registry

/-! ### What a declaration leaves -/

/-- The aliases of a variable that are names of variables are passed over, and the others are
entered. -/
theorem addAliases_fst (r : Registry) (canonical : String) (names : List String) :
    (r.addAliases canonical names).1 =
      { r with
        aliases := r.aliases.putAll
          ((names.filter fun name => !r.specs.contains (r.fold name)).map
            fun name => (r.fold name, canonical)) } := by
  induction names generalizing r with
  | nil => rfl
  | cons name rest ih =>
    unfold addAliases
    split
    · rename_i h
      rw [List.filter_cons_of_neg (by simp [h])]
      exact ih r
    · rename_i h
      rw [ih, List.filter_cons_of_pos (by simp [h])]
      rfl

/-- A declaration, table by table. -/
theorem declare_eq (r : Registry) (name : String) (d : Declaration) :
    (r.declare name d).1 =
      { r with
        specs := r.specs.put (r.fold name) d.spec
        values := r.values.put (r.fold name) .undefined
        validators :=
          match d.validator with
          | some v => r.validators.put (r.fold name) v
          | none => r.validators.erase (r.fold name)
        aliases := (r.aliases.erase (r.fold name)).putAll
          ((d.spec.aliases.filter fun given =>
              !(r.specs.put (r.fold name) d.spec).contains (r.fold given)).map
            fun given => (r.fold given, r.fold name))
        triggers := r.triggers.putAll
          ((d.spec.triggerTokens name).map fun token => (r.fold token, r.fold name)) } := by
  unfold declare
  simp only [addAliases_fst, addTriggers]
  rfl

section Declared

variable (r : Registry) (name : String) (d : Declaration)

@[simp] theorem declare_settings : (r.declare name d).1.settings = r.settings := by
  rw [declare_eq]

@[simp] theorem declare_globals : (r.declare name d).1.globals = r.globals := by
  rw [declare_eq]

@[simp] theorem declare_specs :
    (r.declare name d).1.specs = r.specs.put (r.fold name) d.spec := by
  rw [declare_eq]

@[simp] theorem declare_values :
    (r.declare name d).1.values = r.values.put (r.fold name) .undefined := by
  rw [declare_eq]

theorem declare_fold (other : String) : (r.declare name d).1.fold other = r.fold other := by
  rw [fold, declare_settings, fold]

theorem declare_validators_get? (other : String) :
    (r.declare name d).1.validators.get? other =
      if other = r.fold name then d.validator else r.validators.get? other := by
  rw [declare_eq]
  cases d.validator with
  | none => exact Table.get?_erase _ _ _
  | some v => exact Table.get?_put _ _ _ _

theorem declare_aliases_get? (other : String) :
    (r.declare name d).1.aliases.get? other =
      if other ∈ (d.spec.aliases.filter fun given =>
          !(r.specs.put (r.fold name) d.spec).contains (r.fold given)).map r.fold
      then some (r.fold name)
      else if other = r.fold name then none else r.aliases.get? other := by
  rw [declare_eq]
  simp only [Table.get?_putAll_map, Table.get?_erase]

theorem declare_triggers_get? (token : String) :
    (r.declare name d).1.triggers.get? token =
      if token ∈ (d.spec.triggerTokens name).map r.fold then some (r.fold name)
      else r.triggers.get? token := by
  rw [declare_eq]
  exact Table.get?_putAll_map _ _ _ _ _

end Declared

/-! ### The invariant -/

/-- The tables of a registry belong together. -/
structure Sound (r : Registry) : Prop where
  /-- Values stand under the same keys as declarations, in the same order. -/
  keys_eq : r.values.keys = r.specs.keys
  /-- An alias is no variable. -/
  alias_free : ∀ name, r.aliases.contains name = true → r.specs.contains name = false
  /-- A trigger leads to a variable. -/
  trigger_leads : ∀ token name, r.triggers.get? token = some name → r.specs.contains name = true
  /-- The validator of a variable is the one that its declaration asks for. -/
  validator_compiles : ∀ name spec, r.specs.get? name = some spec →
    spec.Compiles (r.validators.get? name)
  /-- Only variables have validators. -/
  validator_owned : ∀ name, r.validators.contains name = true → r.specs.contains name = true
  spec_folded : ∀ name, r.specs.contains name = true → r.fold name = name
  alias_folded : ∀ name target, r.aliases.get? name = some target →
    r.fold name = name ∧ r.fold target = target
  trigger_folded : ∀ token, r.triggers.contains token = true → r.fold token = token
  /-- A value that is missing is stored as undefined. -/
  no_nothing : ∀ name v, r.values.get? name = some v → v ≠ .nothing

theorem sound_of_empty {r : Registry} (hs : r.specs = ∅) (hv : r.values = ∅)
    (hc : r.validators = ∅) (ha : r.aliases = ∅) (ht : r.triggers = ∅) : r.Sound where
  keys_eq := by rw [hs, hv]; rfl
  alias_free name h := by rw [ha] at h; cases h
  trigger_leads token name h := by rw [ht] at h; cases h
  validator_compiles name spec h := by rw [hs] at h; cases h
  validator_owned name h := by rw [hc] at h; cases h
  spec_folded name h := by rw [hs] at h; cases h
  alias_folded name target h := by rw [ha] at h; cases h
  trigger_folded token h := by rw [ht] at h; cases h
  no_nothing name v h := by rw [hv] at h; cases h

namespace Sound

variable {r : Registry}

/-! ### What keeps a registry sound -/

/-- A new key goes to the same place in tables of the same keys. -/
theorem keys_put_congr {α β : Type} {t : Table String α} {u : Table String β}
    (h : t.keys = u.keys) (k : String) (x : α) (y : β) : (t.put k x).keys = (u.put k y).keys := by
  have hc : t.contains k = u.contains k := by
    rw [Bool.eq_iff_iff, Table.contains_iff_mem_keys, Table.contains_iff_mem_keys, h]
  rw [Table.keys_put, Table.keys_put, hc, h]

/-- **A declaration keeps a registry sound.** -/
theorem declare (h : r.Sound) (name : String) {d : Declaration}
    (hd : d.spec.Compiles d.validator) : (r.declare name d).1.Sound where
  keys_eq := by
    rw [declare_values, declare_specs]
    exact keys_put_congr h.keys_eq _ _ _
  alias_free other ha := by
    rw [declare_specs]
    rw [Table.contains, declare_aliases_get?] at ha
    split at ha
    -- an alias is entered only if it is no variable, the declared one included
    · rename_i hnew
      obtain ⟨given, hmem, rfl⟩ := List.mem_map.mp hnew
      simpa using (List.mem_filter.mp hmem).2
    -- an older alias was erased if it is the name that is declared now
    · split at ha
      · cases ha
      · rename_i hne
        rw [Table.contains_put, h.alias_free other ha]
        simp [hne]
  trigger_leads token other ht := by
    rw [declare_triggers_get?] at ht
    rw [declare_specs, Table.contains_put]
    split at ht
    · cases ht
      simp
    · simp [h.trigger_leads token other ht]
  validator_compiles other spec hs := by
    rw [declare_specs, Table.get?_put] at hs
    rw [declare_validators_get?]
    split at hs
    · rename_i heq
      cases hs
      rw [if_pos heq]
      exact hd
    · rename_i hne
      rw [if_neg hne]
      exact h.validator_compiles other spec hs
  validator_owned other hv := by
    rw [Table.contains, declare_validators_get?] at hv
    rw [declare_specs, Table.contains_put]
    split at hv
    · rename_i heq
      simp [heq]
    · simp [h.validator_owned other hv]
  spec_folded other hs := by
    rw [declare_specs, Table.contains_put, Bool.or_eq_true, decide_eq_true_eq] at hs
    rw [declare_fold]
    rcases hs with rfl | hs
    · exact r.fold_fold name
    · exact h.spec_folded other hs
  alias_folded other target ha := by
    rw [declare_aliases_get?] at ha
    rw [declare_fold, declare_fold]
    split at ha
    · rename_i hnew
      obtain ⟨given, -, rfl⟩ := List.mem_map.mp hnew
      cases ha
      exact ⟨r.fold_fold given, r.fold_fold name⟩
    · split at ha
      · cases ha
      · exact h.alias_folded other target ha
  trigger_folded token ht := by
    rw [Table.contains, declare_triggers_get?] at ht
    rw [declare_fold]
    split at ht
    · rename_i hnew
      obtain ⟨raw, -, rfl⟩ := List.mem_map.mp hnew
      exact r.fold_fold raw
    · exact h.trigger_folded token ht
  no_nothing other v hv := by
    rw [declare_values, Table.get?_put] at hv
    split at hv
    · cases hv
      intro hn
      cases hn
    · exact h.no_nothing other v hv

/-- **An alias that is no variable keeps a registry sound.** -/
theorem addAlias (h : r.Sound) (name target : String)
    (hfree : r.specs.contains (r.fold name) = false) :
    Registry.Sound { r with aliases := r.aliases.put (r.fold name) (r.fold target) } where
  keys_eq := h.keys_eq
  alias_free other ha := by
    rw [Table.contains_put, Bool.or_eq_true, decide_eq_true_eq] at ha
    rcases ha with rfl | ha
    · exact hfree
    · exact h.alias_free other ha
  trigger_leads := h.trigger_leads
  validator_compiles := h.validator_compiles
  validator_owned := h.validator_owned
  spec_folded := h.spec_folded
  alias_folded other target' ha := by
    rw [Table.get?_put] at ha
    split at ha
    · rename_i heq
      cases ha
      subst heq
      exact ⟨r.fold_fold name, r.fold_fold target⟩
    · exact h.alias_folded other target' ha
  trigger_folded := h.trigger_folded
  no_nothing := h.no_nothing

theorem toStored_ne_nothing (v : Value) : v.toStored ≠ .nothing := by
  intro hn
  cases v <;> cases hn

/-- **An assignment to a variable keeps a registry sound.** -/
theorem assign (h : r.Sound) {name : String} (hdef : r.specs.contains name = true) (v : Value) :
    Registry.Sound { r with values := r.values.put name v.toStored } where
  keys_eq := by
    have hin : r.values.contains name = true := by
      rw [Table.contains_iff_mem_keys, h.keys_eq, ← Table.contains_iff_mem_keys]
      exact hdef
    rw [Table.keys_put, if_pos hin]
    exact h.keys_eq
  alias_free := h.alias_free
  trigger_leads := h.trigger_leads
  validator_compiles := h.validator_compiles
  validator_owned := h.validator_owned
  spec_folded := h.spec_folded
  alias_folded := h.alias_folded
  trigger_folded := h.trigger_folded
  no_nothing other w hw := by
    rw [Table.get?_put] at hw
    split at hw
    · cases hw
      exact toStored_ne_nothing v
    · exact h.no_nothing other w hw

/-! ### Canonical names -/

/-- What has a value is a variable. -/
theorem contains_of_value (h : r.Sound) {name : String} {v : Value}
    (hv : r.values.get? name = some v) : r.specs.contains name = true := by
  rw [Table.contains_iff_mem_keys, ← h.keys_eq, ← Table.contains_iff_mem_keys]
  exact Option.isSome_of_eq_some hv

/-- A variable stands for itself. -/
theorem resolve_of_contains (h : r.Sound) {name : String} (hdef : r.specs.contains name = true) :
    r.resolve name = name := by
  have hfold := h.spec_folded name hdef
  have hfree : r.aliases.get? name = none := by
    cases hget : r.aliases.get? name with
    | none => rfl
    | some target =>
      have hin : r.aliases.contains name = true := Option.isSome_of_eq_some hget
      rw [h.alias_free name hin] at hdef
      cases hdef
  rw [resolve, hfold, hfree]
  rfl

/-- A variable is found under its own name. -/
theorem find_of_get? (h : r.Sound) {name : String} {spec : VariableSpec}
    (hspec : r.specs.get? name = some spec) : r.find name = .ok (name, spec) := by
  rw [find, h.resolve_of_contains (Option.isSome_of_eq_some hspec), hspec]

/-- What a name of a variable stands for, stands for itself. -/
theorem resolve_resolve (h : r.Sound) {name : String} (hdef : r.isDefined name = true) :
    r.resolve (r.resolve name) = r.resolve name := h.resolve_of_contains hdef

/-- A name and what it stands for find the same variable. -/
theorem find_resolve (h : r.Sound) {name : String} (hdef : r.isDefined name = true) :
    r.find (r.resolve name) = r.find name := by
  rw [find, find, h.resolve_resolve hdef]

end Sound

end Registry

end ConfigVars
