import ConfigVars.Proofs.Agreement
import ConfigVars.Proofs.Lockstep
import ConfigVars.Proofs.NamedOptions

/-!
# Operations in step

One operation, asked for in two worlds with its names written in one way and in another, goes in
lockstep (`InStep`).  The worlds have registries that are alike up to the writing of names and up to
their error sinks (`Frame`); what else may be different in them is for a relation between worlds to
say.  It has to survive what operations do: they write to the tables what is alike in both worlds,
and they leave records in either that no sink is told (`Event.Unheard`).

What a report does depends on the sink, so reports in lockstep are asked for.  Everything else
follows: setting and checking variables, declaring them, and reading files and command lines.
Hooks of readings are given lines and arguments as they were written, so where there are any, the
writing has to be the same.
-/

namespace ConfigVars

open ConfigVars.Text Run

/-! ### Worlds that keep in step -/

/-- A record that has nothing to do with a report. -/
def Event.Unheard : Event → Prop
  | .problem _ => False
  | .log level _ => level ≠ "WARNING"
  | .call _ arguments => ∀ p, arguments ≠ [.problem p]
  | .got _ _ => True

/-- A relation between worlds that survives what operations do, where names are written in different
ways.  The files and the settings stay as they are. -/
structure Frame (same : String → String → Prop) (files files' : FileTree) (settings : Settings)
    (R : World → World → Prop) : Prop where
  orthography : Orthography same
  files_eq : ∀ {w w' : World}, R w w' → w.files = files ∧ w'.files = files'
  settings_eq : ∀ {w w' : World}, R w w' → w.registry.settings = settings
  like : ∀ {w w' : World}, R w w' → w.registry.Like same w'.registry
  folds : ∀ {w w' : World}, R w w' → w.registry.Folds same
  write : ∀ {w w' : World} {r r' : Registry}, R w w' → r.Like same r' →
    r.settings = w.registry.settings → r'.settings = w'.registry.settings →
      R { w with registry := r } { w' with registry := r' }
  left : ∀ {w w' : World} {e : Event}, R w w' → e.Unheard →
    R { w with events := w.events ++ [e] } w'
  right : ∀ {w w' : World} {e : Event}, R w w' → e.Unheard →
    R w { w' with events := w'.events ++ [e] }

/-- Reports and calls go in lockstep under a caller. -/
structure InStep (same : String → String → Prop) (files files' : FileTree) (settings : Settings)
    (stop : Failure → Prop) (R : World → World → Prop) (call : Caller) : Prop
    extends Frame same files files' settings R where
  report : ∀ {p p' : Problem}, p.Like same p' →
    Lockstep stop R Eq (report call p) (ConfigVars.report call p')
  called : ∀ (c : Callable) (withRegistry : Bool) (arguments : List Value),
    (∀ p, arguments ≠ [.problem p]) →
      Lockstep stop R Eq (call c withRegistry arguments) (call c withRegistry arguments)

variable {same : String → String → Prop} {files files' : FileTree} {settings : Settings}
  {stop : Failure → Prop} {R : World → World → Prop} {call : Caller}

/-! ### Looking at registries that are alike -/

namespace Registry.Like

variable {r r' : Registry} {name name' : String}

theorem resolve_eq (h : r.Like same r') (hfolds : r.Folds same) (hname : same name name') :
    r'.resolve name' = r.resolve name := by
  rw [resolve, resolve, h.fold_same hfolds hname, h.aliases_eq]

theorem isDefined_eq (h : r.Like same r') (hfolds : r.Folds same) (hname : same name name') :
    r'.isDefined name' = r.isDefined name := by
  rw [isDefined, isDefined, h.resolve_eq hfolds hname, h.specs.contains]

theorem trigger?_eq (h : r.Like same r') (hfolds : r.Folds same) (hname : same name name') :
    r'.trigger? name' = r.trigger? name := by
  rw [trigger?, trigger?, h.fold_same hfolds hname, h.triggers_eq]

/-- What two lookups of a name find: one variable with declarations that are alike, or none. -/
inductive FindsLike (same : String → String → Prop) :
    Except Problem (String × VariableSpec) → Except Problem (String × VariableSpec) → Prop where
  | found (canonical : String) {spec spec' : VariableSpec} (h : spec.Like same spec') :
      FindsLike same (.ok (canonical, spec)) (.ok (canonical, spec'))
  | unknown (p : Problem) : FindsLike same (.error p) (.error p)

theorem find (h : r.Like same r') (hfolds : r.Folds same) (hname : same name name') :
    FindsLike same (r.find name) (r'.find name') := by
  have hget := h.specs.get? (r.resolve name)
  rw [Registry.find, Registry.find, h.resolve_eq hfolds hname]
  generalize r.specs.get? (r.resolve name) = spec at hget
  generalize r'.specs.get? (r.resolve name) = spec' at hget
  cases hget with
  | none => exact .unknown _
  | some hspec => exact .found _ hspec

theorem stored_eq (h : r.Like same r') (hfolds : r.Folds same) (hname : same name name') :
    r'.stored name' = r.stored name := by
  have hfind := h.find hfolds hname
  rw [stored, stored, h.values_eq]
  generalize r.find name = found at hfind
  generalize r'.find name' = found' at hfind
  cases hfind <;> rfl

/-- Texts expand to the same in registries that are alike. -/
theorem expand_eq (hsame : Orthography same) (h : r.Like same r') (hfolds : r.Folds same)
    (e : Environment) (v : Value) : expand r' e v = expand r e v := by
  have htext : ∀ name, r'.text? name = r.text? name := fun name => by
    rw [text?, text?, value?, value?, h.stored_eq hfolds (hsame.refl name)]
  have hbare : bareReplacement r' e = bareReplacement r e :=
    funext fun name => by rw [bareReplacement, bareReplacement, htext]
  have hreferences : ∀ cs, expandReferences r' e cs = expandReferences r e cs := fun cs => by
    simp only [expandReferences, hbare, htext]
  cases v <;> simp only [expand, hreferences]

end Registry.Like

/-! ### Records and reports -/

namespace Frame

variable (h : Frame same files files' settings R)
include h

theorem record {e : Event} (he : e.Unheard) :
    Lockstep stop R Eq (record e) (Run.record e) :=
  fun _ _ hw => .answers rfl (h.right (h.left hw he) he)

/-- Details may be different, and may be left out. -/
theorem detail (message message' : String) :
    Lockstep stop R Eq (detail message) (Run.detail message') := by
  intro w w' hw
  have hlevel : "DEBUG" ≠ "WARNING" := by decide
  have hdebug : ∀ m, Event.Unheard (.log "DEBUG" m) := fun _ => hlevel
  obtain ⟨registry, files, events, captures, detailed⟩ := w
  obtain ⟨registry', files', events', captures', detailed'⟩ := w'
  cases detailed <;> cases detailed'
  · exact .answers rfl hw
  · exact .answers rfl (h.right hw (hdebug message'))
  · exact .answers rfl (h.left hw (hdebug message))
  · exact .answers rfl (h.right (h.left hw (hdebug message)) (hdebug message'))

theorem find {name name' : String} (hname : same name name') {w w' : World} (hw : R w w') :
    Lockstep stop R (fun found found' => found.1 = found'.1 ∧ found.2.Like same found'.2)
      (orProblem (w.registry.find name)) (orProblem (w'.registry.find name')) := by
  have hfind := (h.like hw).find (h.folds hw) hname
  generalize w.registry.find name = found at hfind
  generalize w'.registry.find name' = found' at hfind
  cases hfind with
  | found canonical hspec => exact .pure ⟨rfl, hspec⟩
  | unknown p => exact .throw _

theorem spec {name name' : String} (hname : same name name') {w w' : World} (hw : R w w') :
    Lockstep stop R (VariableSpec.Like same) (orProblem (w.registry.spec name))
      (orProblem (w'.registry.spec name')) := by
  have hfind := (h.like hw).find (h.folds hw) hname
  rw [Registry.spec, Registry.spec]
  generalize w.registry.find name = found at hfind
  generalize w'.registry.find name' = found' at hfind
  cases hfind with
  | found canonical hspec => exact .pure hspec
  | unknown p => exact .throw _

/-- A value that is stored under one name. -/
theorem put (canonical : String) (v : Value) :
    Lockstep stop R Eq (update fun r => { r with values := r.values.put canonical v })
      (update fun r => { r with values := r.values.put canonical v }) := by
  refine .update fun w w' hw => h.write hw ?_ rfl rfl
  exact { h.like hw with values_eq := congrArg (·.put canonical v) (h.like hw).values_eq }

end Frame

namespace InStep

variable (h : InStep same files files' settings stop R call)
include h

theorem reportAll {ps ps' : List Problem} (hps : List.Forall₂ (Problem.Like same) ps ps') :
    Lockstep stop R Eq (reportAll call ps) (ConfigVars.reportAll call ps') := by
  induction hps with
  | nil => exact .pure rfl
  | cons hp _ ih => exact (h.report hp).bind_eq fun _ => ih

theorem note {o o' : Outcome} (ho : o.Like same o') {p p' : Problem} (hp : p.Like same p') :
    Lockstep stop R (Outcome.Like same) (note call o p) (ConfigVars.note call o' p') :=
  (h.report hp).bind_eq fun _ => .pure (ho.withProblem hp)

/-! ### Variables -/

variable {name name' : String}

/-- A hook of a variable is given the canonical name and the value, which are the same. -/
theorem assign (hname : same name name') (v : Value) :
    Lockstep stop R Eq (assign call name v) (ConfigVars.assign call name' v) := by
  refine .bind_registry fun w w' hw => (h.find hname hw).bind ?_
  rintro ⟨canonical, spec⟩ ⟨_, spec'⟩ ⟨rfl, hspec⟩
  refine (h.put canonical v.toStored).bind_eq fun _ => ?_
  dsimp only
  rw [← hspec.onChange_eq]
  cases spec.onChange with
  | none => exact .pure rfl
  | some hook => exact (h.called hook true _ (by simp)).bind_eq fun _ => .pure rfl

theorem reset (hname : same name name') :
    Lockstep stop R Eq (reset call name) (ConfigVars.reset call name') := by
  refine .bind_registry fun w w' hw => (h.find hname hw).bind ?_
  rintro ⟨canonical, spec⟩ ⟨_, spec'⟩ ⟨rfl, hspec⟩
  dsimp only
  rw [← hspec.default_eq]
  exact h.assign (h.orthography.refl canonical) spec.default

theorem validate (hname : same name name') (v : Value) :
    Lockstep stop R Eq (validate call name v) (ConfigVars.validate call name' v) := by
  refine .bind_registry fun w w' hw => (h.find hname hw).bind ?_
  rintro ⟨canonical, spec⟩ ⟨_, spec'⟩ ⟨rfl, -⟩
  dsimp only
  rw [← (h.like hw).validators_eq]
  cases w.registry.validators.get? canonical with
  | none => exact .pure rfl
  | some validator =>
    cases validator with
    | search p => exact .pure rfl
    | predicate c => exact (h.called c false _ (by simp)).bind_eq fun _ => .pure rfl

theorem store {o o' : Outcome} (ho : o.Like same o') (name : String) (v : Value)
    {place place' : Place} (hplace : place.Like same place') :
    Lockstep stop R (Outcome.Like same) (store call o name v place)
      (ConfigVars.store call o' name v place') := by
  refine (h.validate (h.orthography.refl name) v).bind_eq fun valid => ?_
  split
  · exact (h.assign (h.orthography.refl name) v).bind_eq fun _ => .pure ho.counted
  · exact h.note ho (.reading _ hplace)

/-! ### Declarations -/

theorem define (hname : same name name') {options options' : List (Value × Value)}
    {keywords keywords' : List (String × Value)}
    (hoptions : List.Forall₂ (OptionLike same) options options')
    (hkeywords : List.Forall₂ (fun e e' => OptionLike same (.text e.1, e.2) (.text e'.1, e'.2))
      keywords keywords') :
    Lockstep stop R Eq (define call name options keywords)
      (ConfigVars.define call name' options' keywords') := by
  intro w w' hw
  have hlike := h.like hw
  have hfolds := h.folds hw
  rw [define_ends, define_ends, ← hlike.globals_eq, hlike.fold_same hfolds hname]
  rcases Declaration.ofOptions_like h.orthography w.registry.globals
      (givenOptions_like hoptions hkeywords) with
    ⟨f, hfails, hfails'⟩ | ⟨d, d', hmade, hmade', hspec, hvalidator, hproblems⟩
  · rw [hfails, hfails']
    exact .fails f hw
  · rw [hmade, hmade']
    obtain ⟨hdeclared, hnamed⟩ := hlike.declare h.orthography hfolds hname hspec hvalidator
    -- the problems of the options are the same, and those of the aliases up to their writing
    have hall : List.Forall₂ (Problem.Like same)
        (d.problems ++ (w.registry.declare name d).2)
        (d'.problems ++ (w'.registry.declare name' d').2) :=
      List.rel_append (hproblems ▸ forall₂_refl .refl _) hnamed
    refine ((h.reportAll hall).bind_eq fun _ => (h.detail _ _).bind_eq fun _ =>
      (h.reset (h.orthography.refl (w.registry.fold name))).bind_eq fun _ => .pure rfl) _ _ ?_
    exact h.write hw hdeclared (Registry.declare_settings _ _ _)
      (Registry.declare_settings _ _ _)

theorem addAlias (hname : same name name') {target target' : String}
    (htarget : same target target') :
    Lockstep stop R Eq (addAlias call name target) (ConfigVars.addAlias call name' target') := by
  refine .bind_registry fun w w' hw => ?_
  have hlike := h.like hw
  rw [hlike.fold_same (h.folds hw) hname, ← hlike.specs.contains]
  split
  · exact (h.report (.option hname _)).bind_eq fun _ => .pure rfl
  · refine Lockstep.bind_eq (.update fun w w' hw => h.write hw ?_ rfl rfl) fun _ => .pure rfl
    have hlike := h.like hw
    have hfolds := h.folds hw
    rw [hlike.fold_same hfolds hname, hlike.fold_same hfolds htarget]
    exact { hlike with
      aliases_eq :=
        congrArg (·.put (w.registry.fold name) (w.registry.fold target)) hlike.aliases_eq }

end InStep

end ConfigVars
