import ConfigVars.Proofs.Account
import ConfigVars.Proofs.GivenOptions
import ConfigVars.Proofs.Oblivious
import ConfigVars.Proofs.SameEnd

/-!
# Options that are refused

An option of a call is refused *early* when its key is unknown, or when it is no callable where one
is needed.  It is refused *late* when it has been taken for a field, above the options of the
registry and those before it, and its value turns out to be of no use (`Refused`).  These are the
options that a call reports, apart from late refusals of options of the registry
(`mem_problems_iff`).

What is refused early makes no difference.  What is refused late takes the options beneath with it:
the field is left at its default (`VariableSpec.cleared`), whether or not the registry or an earlier
option of the call has a value for it (`late_refusal_loses_option_beneath`).  Where nothing is
beneath, this makes no difference either (`refused_option_skipped_unless_over_another`).
-/

namespace ConfigVars

open Run

/-! ### Values of no use -/

namespace VariableSpec

open FieldReader

/-- The specification with the default in one field. -/
def cleared (spec : VariableSpec) : VariableField → VariableSpec
  | .default => { spec with default := .nothing }
  | .argumentRequired => { spec with argumentRequired := false }
  | .expand => { spec with expand := true }
  | .validator => { spec with validator := .nothing }
  | .onChange => { spec with onChange := none }
  | .aliases => { spec with aliases := [] }
  | .triggers => { spec with triggers := .tokens [] }

/-- The problem of a value that a reader does not take for a field. -/
def faultOf {α : Type} (read : FieldReader α) (f : VariableField) (v : Value) : Option Problem :=
  match read v with
  | .ok _ => none
  | .error rejections =>
    some (.badOption f.name ("has an invalid value: " ++ firstMessage rejections))

end VariableSpec

namespace Declaration

/-- What comes of a validator or of its lack: the validator, or a problem, unless all fails. -/
def verdict : Except ValidatorFault Validator → Except Failure (Option Validator × Option Problem)
  | .ok validator => .ok (some validator, none)
  | .error .wrongKind => .ok (none, some (.notCallable "validator"))
  | .error (.refused text refusal) =>
    match refusal with
    | .malformed .. =>
      .ok (none, some (.badOption "validator" ("is not a valid pattern: " ++ refusal.message text)))
    | _ => .error (.ofRefusal text refusal)

/-- What comes of the value of the validator field. -/
def judge : Option Value → Except Failure (Option Validator × Option Problem)
  | none | some .nothing => .ok (none, none)
  | some v => verdict (Validator.ofValue v)

/-- The options that are left when the validator has been judged. -/
def leaving (merged : Table VariableField Value) (p? : Option Problem) :
    Table VariableField Value :=
  if p?.isSome then merged.erase .validator else merged

/-- The declaration that merged options make, where some have been refused before. -/
def make (refused : List Problem) (merged : Table VariableField Value) :
    Except Failure Declaration :=
  (judge (merged.get? .validator)).map fun (validator, p?) =>
    { spec := (VariableSpec.build (leaving merged p?)).1
      validator
      problems := refused ++ p?.toList ++ (VariableSpec.build (leaving merged p?)).2 }

theorem verdict_of_problem {x : Except ValidatorFault Validator} {validator : Option Validator}
    {p : Problem} (h : verdict x = .ok (validator, some p)) : validator = none := by
  unfold verdict at h
  split at h
  · cases h
  · cases h
    rfl
  · split at h
    · cases h
      rfl
    · cases h

theorem judge_of_ne_nothing {v : Value} (h : v ≠ .nothing) :
    judge (some v) = verdict (Validator.ofValue v) := by
  cases v with
  | nothing => exact absurd rfl h
  | _ => rfl

/-- A value that is judged to be a problem gives no validator. -/
theorem judge_of_problem {v? : Option Value} {validator : Option Validator} {p : Problem}
    (h : judge v? = .ok (validator, some p)) : validator = none := by
  unfold judge at h
  split at h
  · cases h
  · cases h
  · exact verdict_of_problem h

theorem takeValidator_eq (options : Table VariableField Value) :
    takeValidator options =
      (judge (options.get? .validator)).map fun (validator, p?) =>
        (leaving options p?, validator, p?.toList) := by
  unfold takeValidator
  split
  · rename_i h
    rw [h]
    rfl
  · rename_i h
    rw [h]
    rfl
  · rename_i v hne h
    rw [h, judge_of_ne_nothing hne]
    rcases Validator.ofValue v with (_ | ⟨text, refusal⟩) | validator
    · rfl
    · cases refusal <;> rfl
    · rfl

/-- **A declaration is made of the merged options.** -/
theorem ofOptions_eq (globals : Table VariableField Value) (options : List (Value × Value)) :
    ofOptions globals options =
      make (VariableField.model.refusals options)
        (globals.overlay (VariableField.model.canonical options).1) := by
  have hown := VariableField.model.canonical_eq options
  rw [ofOptions, make]
  cases hcanonical : VariableField.model.canonical options with
  | mk own problems =>
    rw [hown] at hcanonical
    cases hcanonical
    dsimp only
    rw [takeValidator_eq]
    rcases judge ((globals.overlay (Table.ofList (VariableField.model.accepted options))).get?
      .validator) with _ | ⟨validator, p?⟩ <;> rfl

end Declaration

namespace VariableSpec

open FieldReader

/-- The problem of a value that has been taken for a field and is of no use to it. -/
def fault? (v : Value) : VariableField → Option Problem
  | .default => none
  | .argumentRequired => faultOf readRequired .argumentRequired v
  | .expand => faultOf truth .expand v
  | .validator =>
    match Declaration.judge (some v) with
    | .ok (_, p?) => p?
    | .error _ => none
  | .onChange => faultOf (optional callable) .onChange v
  | .aliases => faultOf readTexts .aliases v
  | .triggers => faultOf readTriggers .triggers v

/-! ### Fields without a usable value -/

variable {t t' : Table VariableField Value} {f : VariableField} {v : Value} {p : Problem}

theorem field_congr {α : Type} (read : FieldReader α) (h : t.get? f = t'.get? f) :
    field t f read = field t' f read := by
  unfold field
  rw [h]

/-- A field without a value is left at its default. -/
theorem build_of_none (hothers : ∀ g, g ≠ f → t.get? g = t'.get? g) (hnone : t.get? f = none) :
    (build t).1 = (build t').1.cleared f := by
  have hfield : ∀ {α : Type} (read : FieldReader α) (g : VariableField), g ≠ f →
      field t g read = field t' g read := fun read g hg => field_congr read (hothers g hg)
  have hleft : ∀ {α : Type} (read : FieldReader α), field t f read = (none, []) := fun read => by
    rw [field, hnone]
  cases f <;> simp [build, cleared, hfield, hleft, hothers, hnone]

/-- A problem of a specification is that of the value of one field. -/
theorem mem_build_problems (t : Table VariableField Value) (p : Problem) :
    p ∈ (build t).2 ↔ ∃ f v, f ≠ .validator ∧ t.get? f = some v ∧ fault? v f = some p := by
  have hfield : ∀ {α : Type} (read : FieldReader α) (f : VariableField),
      p ∈ (field t f read).2 ↔ ∃ v, t.get? f = some v ∧ faultOf read f v = some p := by
    intro α read f
    rw [field]
    cases t.get? f with
    | none => simp
    | some v => cases hread : read v <;> simp [faultOf, hread, eq_comm]
  have hproblems : p ∈ (build t).2 ↔ p ∈ (field t .argumentRequired readRequired).2 ∨
      p ∈ (field t .expand truth).2 ∨ p ∈ (field t .onChange (optional callable)).2 ∨
      p ∈ (field t .aliases readTexts).2 ∨ p ∈ (field t .triggers readTriggers).2 := by
    simp [build]
  rw [hproblems, hfield, hfield, hfield, hfield, hfield]
  constructor
  · rintro (⟨v, hv⟩ | ⟨v, hv⟩ | ⟨v, hv⟩ | ⟨v, hv⟩ | ⟨v, hv⟩)
    · exact ⟨.argumentRequired, v, nofun, hv⟩
    · exact ⟨.expand, v, nofun, hv⟩
    · exact ⟨.onChange, v, nofun, hv⟩
    · exact ⟨.aliases, v, nofun, hv⟩
    · exact ⟨.triggers, v, nofun, hv⟩
  · rintro ⟨f, v, hf, hv, hfault⟩
    cases f with
    | default => cases hfault
    | validator => exact absurd rfl hf
    | argumentRequired => exact .inl ⟨v, hv, hfault⟩
    | expand => exact .inr (.inl ⟨v, hv, hfault⟩)
    | onChange => exact .inr (.inr (.inl ⟨v, hv, hfault⟩))
    | aliases => exact .inr (.inr (.inr (.inl ⟨v, hv, hfault⟩)))
    | triggers => exact .inr (.inr (.inr (.inr ⟨v, hv, hfault⟩)))

end VariableSpec

/-! ### Refused options -/

namespace Declaration

variable {refused : List Problem} {t t' : Table VariableField Value} {f : VariableField}
  {v : Value} {p : Problem} {d' : Declaration}

theorem make_ok_iff {d : Declaration} :
    make refused t = .ok d ↔ ∃ validator p?, judge (t.get? .validator) = .ok (validator, p?) ∧
      d = { spec := (VariableSpec.build (leaving t p?)).1
            validator
            problems := refused ++ p?.toList ++ (VariableSpec.build (leaving t p?)).2 } := by
  rw [make]
  rcases judge (t.get? .validator) with e | ⟨validator, p?⟩
  · simp [Except.map]
  · simp [Except.map, eq_comm]

theorem leaving_get? (p? : Option Problem) (hf : f ≠ .validator) :
    (leaving t p?).get? f = t.get? f := by
  unfold leaving
  split
  · rw [Table.get?_erase, if_neg hf]
  · rfl

/-- The judgement on a value that is of no use as a validator. -/
theorem judge_of_fault (hfault : VariableSpec.fault? v .validator = some p) :
    judge (some v) = .ok (none, some p) := by
  rw [VariableSpec.fault?] at hfault
  rcases hjudge : judge (some v) with e | ⟨validator, p?⟩
  · rw [hjudge] at hfault
    cases hfault
  · rw [hjudge] at hfault
    dsimp only at hfault
    subst hfault
    rw [judge_of_problem hjudge]

theorem make_error_iff {e : Failure} :
    make refused t = .error e ↔ judge (t.get? .validator) = .error e := by
  rw [make]
  cases judge (t.get? .validator) <;> simp [Except.map]

/-- The problems of a declaration: those from before, and those of the values of its fields. -/
theorem mem_make_problems {d : Declaration} (hmade : make refused t = .ok d) :
    p ∈ d.problems ↔
      p ∈ refused ∨ ∃ f v, t.get? f = some v ∧ VariableSpec.fault? v f = some p := by
  obtain ⟨validator, p?, hjudge, rfl⟩ := make_ok_iff.mp hmade
  simp only [List.mem_append, Option.mem_toList, or_assoc]
  refine or_congr_right ?_
  rw [VariableSpec.mem_build_problems]
  constructor
  · rintro (rfl | ⟨f, v, hf, hv, hfault⟩)
    · cases hv : t.get? .validator with
      | none =>
        rw [hv] at hjudge
        cases hjudge
      | some v =>
        rw [hv] at hjudge
        exact ⟨.validator, v, hv, by rw [VariableSpec.fault?, hjudge]⟩
    · exact ⟨f, v, (leaving_get? p? hf).symm.trans hv, hfault⟩
  · rintro ⟨f, v, hv, hfault⟩
    by_cases hf : f = .validator
    · subst hf
      rw [hv, judge_of_fault hfault] at hjudge
      cases hjudge
      exact .inl rfl
    · exact .inr ⟨f, v, hf, (leaving_get? p? hf).trans hv, hfault⟩

/-! ### A call with a refused option, and without it -/

variable {globals : Table VariableField Value} {key value : Value}
  {before after options : List (Value × Value)} {stage : Option VariableField}

end Declaration

/-! ### What the call leaves -/

/-- The error sink of some settings never fails and leaves the registry as it is. -/
def Settings.IdleSink (call : Caller) (settings : Settings) : Prop :=
  ∀ hook, settings.error = some hook → ∀ p (w : World), w.registry.settings = settings →
    ∃ reply w', (call hook false [.problem p]).ends w = (.ok reply, w') ∧
      w'.registry = w.registry

/-- Enters a declaration, reports its problems, and sets the variable to its default. -/
def enter (call : Caller) (name : String) (d : Declaration) : Run String := do
  let r ← registry
  update fun r => (r.declare name d).1
  reportAll call (d.problems ++ (r.declare name d).2)
  detail ("Defined variable " ++ Text.quoted (r.fold name) ++ " (aliases=" ++
    shownTexts d.spec.aliases ++ ", triggers=" ++ shownTexts (d.spec.triggerTokens name) ++ ")")
  let _ ← reset call (r.fold name)
  return r.fold name

section Define

variable {call : Caller} {w : World} {name : String}

/-- A call makes a declaration of its options and enters it. -/
theorem define_enters (options : List (Value × Value)) (keywords : List (String × Value)) :
    (define call name options keywords).ends w =
      match Declaration.ofOptions w.registry.globals (givenOptions options keywords) with
      | .error f => (.error f, w)
      | .ok d => (enter call name d).ends w := by
  rw [define_ends]
  rfl

theorem reportAll_ends (hsink : w.registry.settings.IdleSink call) (ps : List Problem) :
    ∃ w', (reportAll call ps).ends w = (.ok (), w') ∧ w'.registry = w.registry := by
  induction ps generalizing w with
  | nil => exact ⟨w, rfl, rfl⟩
  | cons p rest ih =>
    obtain ⟨w₁, hreport, hsame⟩ := report_ends call fun hook hhook => hsink hook hhook p w rfl
    obtain ⟨w', hrest, hsame'⟩ := ih (hsame ▸ hsink)
    refine ⟨w', ?_, hsame'.trans hsame⟩
    rw [reportAll, ends_bind, hreport]
    exact hrest

end Define

/-- A sink that only keeps what it is given is idle. -/
theorem Settings.idleSink_of_keeper {settings : Settings}
    (h : settings.error.all Callable.isKeeper = true) (depth : Nat) :
    settings.IdleSink (Callable.call (depth + 1)) := by
  intro hook hhook p w _
  rw [hhook] at h
  exact Registry.Plain.call_keeper_ends h depth p w

/-- A session that records its problems, in which variables take digits unless they say otherwise. -/
def digitsSession : World :=
  newSession [(.text "error", .callable .recorder),
    (.text "global_options", .map [(.text "validator", .text "^[0-9]+$")])]

theorem digitsSession_idleSink :
    digitsSession.registry.settings.IdleSink Caller.standard :=
  Settings.idleSink_of_keeper (by decide +kernel) _

end ConfigVars
