import ConfigVars.Proofs.Agreement
import Mathlib.Data.List.Forall2

/-!
# The same up to the writing of names

An orthography (`Orthography`) says which texts are ways of writing one name.  Texts that are the
same are; and in a registry that folds names, so are texts of one lower case.  What makes a text a
flag, or the name of a line, is in every way of writing it.

What is given to a registry, and what comes of it, may be the same up to the writing of names:
options, which may hold aliases and triggers (`OptionLike`), declarations (`VariableSpec.Like`),
problems (`Problem.Like`), outcomes (`Outcome.Like`), and registries (`Registry.Like`).  Of a
registry only the declarations hold names as they were written; the tables hold folded ones, so they
are the very same.

Tables are alike when they have the same keys in the same order, with values that are
(`Table.Like`), which putting and erasing entries keeps.
-/

namespace ConfigVars

open ConfigVars.Text

/-- Which texts are ways of writing one name. -/
structure Orthography (same : String → String → Prop) : Prop where
  refl : ∀ s, same s s
  /-- A minus sign in front makes a name a flag. -/
  dash : ∀ {s s'}, same s s' → same ("-" ++ s) ("-" ++ s')
  isFlag_eq : ∀ {s s'}, same s s' → isFlag s' = isFlag s
  lineName : ∀ {name name' : List Char}, same (String.ofList name) (String.ofList name') →
    IsLineName name → IsLineName name'

theorem Orthography.eq : Orthography Eq where
  refl _ := rfl
  dash h := h ▸ rfl
  isFlag_eq h := h ▸ rfl
  lineName h hname := String.ofList_injective h ▸ hname

/-- Entries of lists that belong together, one by one. -/
theorem forall₂_refl {α : Type u} {V : α → α → Prop} (h : ∀ x, V x x) (xs : List α) :
    List.Forall₂ V xs xs := List.forall₂_same.mpr fun x _ => h x

/-! ### Tables entry by entry -/

section Entries

variable {κ : Type u} {α : Type v}

/-- Entries of one key whose values belong together. -/
def EntryLike (V : κ → α → α → Prop) (e e' : κ × α) : Prop := e.1 = e'.1 ∧ V e.1 e.2 e'.2

/-- Tables of the same keys whose values belong together. -/
def Table.Like (V : κ → α → α → Prop) (t t' : Table κ α) : Prop :=
  List.Forall₂ (EntryLike V) t.entries t'.entries

namespace Table

variable {V : κ → α → α → Prop}

theorem Like.refl (h : ∀ k v, V k v v) (t : Table κ α) : t.Like V t :=
  forall₂_refl (V := EntryLike V) (fun e => ⟨rfl, h e.1 e.2⟩) t.entries

variable [BEq κ]

/-- Values that belong together under every key that is taken for `k` may be put under `k`. -/
theorem Like.put {t t' : Table κ α} (h : t.Like V t') {k : κ} {v v' : α}
    (hv : ∀ k', k' = k ∨ (k' == k) = true → V k' v v') : (t.put k v).Like V (t'.put k v') := by
  obtain ⟨es⟩ := t
  obtain ⟨es'⟩ := t'
  simp only [Like, Table.put] at h ⊢
  induction h with
  | nil => exact .cons ⟨rfl, hv k (.inl rfl)⟩ .nil
  | @cons e e' rest rest' he hrest ih =>
    obtain ⟨a, b⟩ := e
    obtain ⟨a', b'⟩ := e'
    obtain ⟨rfl, hb⟩ := he
    simp only [putIn]
    split
    · rename_i ha
      exact .cons ⟨rfl, hv a (.inr ha)⟩ hrest
    · exact .cons ⟨rfl, hb⟩ ih

theorem Like.erase {t t' : Table κ α} (h : t.Like V t') (k : κ) :
    (t.erase k).Like V (t'.erase k) := by
  obtain ⟨es⟩ := t
  obtain ⟨es'⟩ := t'
  simp only [Like, Table.erase] at h ⊢
  induction h with
  | nil => exact .nil
  | @cons e e' rest rest' he hrest ih =>
    obtain ⟨a, b⟩ := e
    obtain ⟨a', b'⟩ := e'
    obtain ⟨rfl, hb⟩ := he
    simp only [eraseIn]
    split
    · exact ih
    · exact .cons ⟨rfl, hb⟩ ih

variable [LawfulBEq κ]

theorem Like.get? {t t' : Table κ α} (h : t.Like V t') (k : κ) :
    Option.Rel (V k) (t.get? k) (t'.get? k) := by
  obtain ⟨es⟩ := t
  obtain ⟨es'⟩ := t'
  simp only [Like, Table.get?] at h ⊢
  induction h with
  | nil => exact .none
  | @cons e e' rest rest' he hrest ih =>
    obtain ⟨a, b⟩ := e
    obtain ⟨a', b'⟩ := e'
    obtain ⟨rfl, hb⟩ := he
    simp only [getIn]
    split
    · rename_i ha
      exact .some (eq_of_beq ha ▸ hb)
    · exact ih

theorem Like.contains {t t' : Table κ α} (h : t.Like V t') (k : κ) :
    t.contains k = t'.contains k := by
  have hk := h.get? k
  rw [Table.contains, Table.contains]
  generalize t.get? k = v at hk
  generalize t'.get? k = v' at hk
  cases hk <;> rfl

theorem Like.putAll {t t' : Table κ α} (h : t.Like V t') {es es' : List (κ × α)}
    (hes : List.Forall₂ (EntryLike V) es es') : (t.putAll es).Like V (t'.putAll es') := by
  induction hes generalizing t t' with
  | nil => exact h
  | @cons e e' rest rest' he hrest ih =>
    obtain ⟨a, b⟩ := e
    obtain ⟨a', b'⟩ := e'
    obtain ⟨rfl, hb⟩ := he
    exact ih (h.put fun k' hk' => by
      rcases hk' with rfl | hk'
      · exact hb
      · exact eq_of_beq hk' ▸ hb)

end Table

end Entries

/-! ### Alike up to names -/

section Like

variable (same : String → String → Prop)

/-- Places that differ in the writing of a flag. -/
inductive Place.Like : Place → Place → Prop where
  | refl (place : Place) : Like place place
  | flag {token token' : String} (h : same token token') :
      Like { token := some token } { token := some token' }

/-- Problems that differ in the writing of an option that is an alias, or of a flag. -/
inductive Problem.Like : Problem → Problem → Prop where
  | refl (p : Problem) : Like p p
  | option {name name' : String} (h : same name name') (reason : String) :
      Like (.badOption name reason) (.badOption name' reason)
  | reading (fault : ReadingFault) {place place' : Place} (h : place.Like same place') :
      Like (.reading fault place) (.reading fault place')

/-- Outcomes that differ in the writing of names in their problems. -/
structure Outcome.Like (o o' : Outcome) : Prop where
  source_eq : o.source = o'.source
  ok_eq : o.ok = o'.ok
  applied_eq : o.applied = o'.applied
  problems : List.Forall₂ (Problem.Like same) o.problems o'.problems

/-- Triggers that differ in the writing of the tokens. -/
inductive Triggers.Like : Triggers → Triggers → Prop where
  | generated (on : Bool) : Like (.generated on) (.generated on)
  | tokens {ts ts' : List String} (h : List.Forall₂ same ts ts') : Like (.tokens ts) (.tokens ts')

/-- Declarations that differ in the writing of aliases and triggers. -/
structure VariableSpec.Like (spec spec' : VariableSpec) : Prop where
  default_eq : spec.default = spec'.default
  argumentRequired_eq : spec.argumentRequired = spec'.argumentRequired
  expand_eq : spec.expand = spec'.expand
  validator_eq : spec.validator = spec'.validator
  onChange_eq : spec.onChange = spec'.onChange
  aliases : List.Forall₂ same spec.aliases spec'.aliases
  triggers : spec.triggers.Like same spec'.triggers

/-- Registries that differ in their error sinks, and in the writing of names in declarations. -/
structure Registry.Like (r r' : Registry) : Prop where
  settings_eq : ∃ error, r'.settings = { r.settings with error }
  globals_eq : r.globals = r'.globals
  specs : r.specs.Like (fun _ => VariableSpec.Like same) r'.specs
  values_eq : r.values = r'.values
  validators_eq : r.validators = r'.validators
  aliases_eq : r.aliases = r'.aliases
  triggers_eq : r.triggers = r'.triggers
  environment_eq : r.environment = r'.environment

/-- Texts as values that differ in their writing. -/
inductive Value.TextLike : Value → Value → Prop where
  | refl (v : Value) : TextLike v v
  | text {s s' : String} (h : same s s') : TextLike (.text s) (.text s')

/-- A text, or a list or a tuple of texts, in another writing. -/
inductive Value.TextsLike : Value → Value → Prop where
  | one {v v' : Value} (h : TextLike same v v') : TextsLike v v'
  | list {vs vs' : List Value} (h : List.Forall₂ (TextLike same) vs vs') :
      TextsLike (.list vs) (.list vs')
  | tuple {vs vs' : List Value} (h : List.Forall₂ (TextLike same) vs vs') :
      TextsLike (.tuple vs) (.tuple vs')

/-- Whether a field holds names. -/
def VariableField.holdsNames : VariableField → Bool
  | .aliases | .triggers => true
  | _ => false

/-- Values of a field that differ in the writing of names, if the field holds any. -/
def VariableField.ValueLike (field : VariableField) (v v' : Value) : Prop :=
  v = v' ∨ field.holdsNames = true ∧ v.TextsLike same v'

/-- Options that differ in the writing of the names that they give. -/
inductive OptionLike : Value × Value → Value × Value → Prop where
  | refl (option : Value × Value) : OptionLike option option
  | names {key : String} {field : VariableField} {v v' : Value}
      (hfield : VariableField.model.field? (.text key) = some field)
      (hnames : field.holdsNames = true) (h : v.TextsLike same v') :
      OptionLike (.text key, v) (.text key, v')

end Like

variable {same : String → String → Prop}

/-! ### With the same writing, alike is equal -/

theorem Problem.Like.eq {p p' : Problem} (h : p.Like Eq p') : p = p' := by
  cases h with
  | refl _ => rfl
  | option h _ => rw [h]
  | reading _ h =>
    cases h with
    | refl _ => rfl
    | flag h => rw [h]

theorem Outcome.Like.eq {o o' : Outcome} (h : o.Like Eq o') : o = o' := by
  obtain ⟨source, ok, applied, problems⟩ := o
  obtain ⟨source', ok', applied', problems'⟩ := o'
  obtain ⟨rfl, rfl, rfl, hproblems⟩ := h
  have hsame : problems = problems' :=
    List.forall₂_eq_eq_eq ▸ hproblems.imp fun _ _ => Problem.Like.eq
  rw [hsame]

theorem VariableSpec.Like.eq {spec spec' : VariableSpec} (h : spec.Like Eq spec') :
    spec = spec' := by
  obtain ⟨default, required, expand, validator, onChange, aliases, triggers⟩ := spec
  obtain ⟨default', required', expand', validator', onChange', aliases', triggers'⟩ := spec'
  obtain ⟨rfl, rfl, rfl, rfl, rfl, haliases, htriggers⟩ := h
  rw [List.forall₂_eq_eq_eq] at haliases
  subst haliases
  cases htriggers with
  | generated on => rfl
  | tokens hts =>
    rw [List.forall₂_eq_eq_eq] at hts
    rw [hts]

/-! ### What is alike with itself -/

theorem Outcome.Like.refl (o : Outcome) : o.Like same o :=
  ⟨rfl, rfl, rfl, forall₂_refl .refl _⟩

theorem Triggers.Like.refl (hsame : Orthography same) (triggers : Triggers) :
    triggers.Like same triggers := by
  cases triggers with
  | generated on => exact .generated on
  | tokens ts => exact .tokens (forall₂_refl hsame.refl ts)

theorem VariableSpec.Like.refl (hsame : Orthography same) (spec : VariableSpec) :
    spec.Like same spec :=
  ⟨rfl, rfl, rfl, rfl, rfl, forall₂_refl hsame.refl _, .refl hsame _⟩

theorem Registry.Like.refl (hsame : Orthography same) (r : Registry) : r.Like same r :=
  ⟨⟨r.settings.error, rfl⟩, rfl, .refl (fun _ => .refl hsame) _, rfl, rfl, rfl, rfl, rfl⟩

/-! ### Outcomes -/

theorem Outcome.Like.counted {o o' : Outcome} (h : o.Like same o') :
    o.counted.Like same o'.counted :=
  ⟨h.source_eq, h.ok_eq, by simp only [Outcome.counted, h.applied_eq], h.problems⟩

theorem Outcome.Like.withProblem {o o' : Outcome} (h : o.Like same o') {p p' : Problem}
    (hp : p.Like same p') : (o.withProblem p).Like same (o'.withProblem p') :=
  ⟨h.source_eq, h.ok_eq, h.applied_eq, List.rel_append h.problems (.cons hp .nil)⟩

theorem Outcome.Like.failed {o o' : Outcome} (h : o.Like same o') :
    o.failed.Like same o'.failed := ⟨h.source_eq, rfl, h.applied_eq, h.problems⟩

end ConfigVars
