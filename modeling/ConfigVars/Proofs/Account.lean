import ConfigVars.Proofs.Acceptance
import Mathlib.Data.List.Forall2

/-!
# Accounts of readings

A file and a command line ask one thing after the other of a registry (`Directive`): to report a
problem, to set a variable to its default, or to check a value and then to store it or to report
that it is rejected.  What comes of it (`Directive.Done`) is an assignment or one problem.

* `Account`: the parts of an input, each with what came of it, and the worlds that doing what they
  ask leads from and to.
* `Registry.Quiet`: a registry whose variables have no hooks, and whose error sink and validators
  neither fail nor touch the registry, whatever values the variables have.
* `Hears`: an observation of what the error sink is told, to which nothing but a report adds.

In a quiet registry everything that is asked is done (`Directive.run_done`).  An account changes no
table but the values, and these by one assignment for each part that counts (`Account.assigned`);
what the sink is told are the problems of the account in their order (`Account.told_eq`).
-/

namespace ConfigVars

open Run

variable {α ι : Type}

/-! ### Other values -/

namespace Registry

/-- A registry with the tables of another one, the values apart. -/
def Revalued (start r : Registry) : Prop := ∃ values, r = { start with values }

namespace Revalued

variable {start r r' : Registry}

theorem refl (r : Registry) : r.Revalued r := ⟨r.values, rfl⟩

theorem trans (h : start.Revalued r) (h' : r.Revalued r') : start.Revalued r' := by
  obtain ⟨values, rfl⟩ := h
  obtain ⟨values', rfl⟩ := h'
  exact ⟨values', rfl⟩

theorem symm (h : start.Revalued r) : r.Revalued start := by
  obtain ⟨values, rfl⟩ := h
  exact ⟨start.values, rfl⟩

theorem of_eq (h : r = start) : start.Revalued r := h ▸ refl r

theorem find_eq (h : start.Revalued r) (name : String) : r.find name = start.find name := by
  obtain ⟨values, rfl⟩ := h
  rfl

theorem isDefined_eq (h : start.Revalued r) (name : String) :
    r.isDefined name = start.isDefined name := by
  obtain ⟨values, rfl⟩ := h
  rfl

theorem resolve_eq (h : start.Revalued r) (name : String) : r.resolve name = start.resolve name := by
  obtain ⟨values, rfl⟩ := h
  rfl

theorem trigger_eq (h : start.Revalued r) (token : String) :
    r.trigger? token = start.trigger? token := by
  obtain ⟨values, rfl⟩ := h
  rfl

theorem specs_eq (h : start.Revalued r) : r.specs = start.specs := by
  obtain ⟨values, rfl⟩ := h
  rfl

theorem validators_eq (h : start.Revalued r) : r.validators = start.validators := by
  obtain ⟨values, rfl⟩ := h
  rfl

theorem settings_eq (h : start.Revalued r) : r.settings = start.settings := by
  obtain ⟨values, rfl⟩ := h
  rfl

end Revalued

end Registry

/-- A run that succeeds and leaves the registry as it is, wherever it differs from a given one in
values only. -/
def Harmless (r : Registry) (x : Run α) : Prop :=
  ∀ w : World, r.Revalued w.registry → ∃ a w', x.ends w = (.ok a, w') ∧ w'.registry = w.registry

theorem Harmless.revalued {start r : Registry} {x : Run α} (h : Harmless start x)
    (hr : start.Revalued r) : Harmless r x := fun w hw => h w (hr.trans hw)

/-- No variable has a hook, and neither the error sink nor a validator fails or touches the
registry. -/
structure Registry.Quiet (call : Caller) (r : Registry) : Prop where
  sink : ∀ hook, r.settings.error = some hook → ∀ p, Harmless r (call hook false [.problem p])
  check : ∀ name validator, r.validators.get? name = some validator →
    ∀ v, Harmless r (validator.accepts call name v)
  silent : ∀ name spec, r.specs.get? name = some spec → spec.onChange = none

section Quiet

variable {call : Caller} {w : World} {name canonical : String} {spec : VariableSpec}

theorem Registry.Quiet.revalued {start r : Registry} (h : start.Quiet call)
    (hr : start.Revalued r) : r.Quiet call := by
  have hsame := hr
  obtain ⟨values, rfl⟩ := hr
  exact ⟨fun hook hhook p => (h.sink hook hhook p).revalued hsame,
    fun name validator hv v => (h.check name validator hv v).revalued hsame, h.silent⟩

/-- A report succeeds and leaves the registry as it is. -/
theorem Registry.Quiet.report_ends (h : w.registry.Quiet call) (p : Problem) :
    ∃ w', (report call p).ends w = (.ok (), w') ∧ w'.registry = w.registry :=
  ConfigVars.report_ends call fun hook hhook => h.sink hook hhook p w (.refl _)

/-- A check of a variable comes to a verdict and leaves the registry as it is. -/
theorem Registry.Quiet.validate_ends (h : w.registry.Quiet call)
    (hfind : w.registry.find name = .ok (canonical, spec)) (v : Value) :
    ∃ valid w', (validate call name v).ends w = (.ok valid, w') ∧ w'.registry = w.registry := by
  rw [validate, ends_bind_registry, hfind, orProblem_ok_bind]
  dsimp only
  cases hv : w.registry.validators.get? canonical with
  | none => exact ⟨true, w, rfl, rfl⟩
  | some validator => exact h.check canonical validator hv v w (.refl _)

/-- A detail leaves a record at most. -/
theorem detail_ends (message : String) (w : World) :
    ∃ w', (detail message).ends w = (.ok (), w') ∧ w'.registry = w.registry := by
  obtain ⟨registry, files, events, captures, detailed⟩ := w
  cases detailed with
  | true => exact ⟨_, rfl, rfl⟩
  | false => exact ⟨_, rfl, rfl⟩

end Quiet

/-! ### What is asked, and what comes of it -/

/-- What a part of an input asks of a registry. -/
inductive Directive where
  /-- To report a problem. -/
  | refuse (p : Problem)
  /-- To set a variable to its default. -/
  | reset (name : String) (default : Value)
  /-- To check a value for a variable, and to store it or to report that it is rejected. -/
  | store (name : String) (v : Value) (place : Place)

/-- One more assignment, or one more problem. -/
def Outcome.adding (o : Outcome) : Option Problem → Outcome
  | none => o.counted
  | some p => o.withProblem p

namespace Directive

/-- The assignment that a directive comes to if it counts. -/
def assignment? : Directive → Option (String × Value)
  | refuse _ => none
  | reset name v | store name v _ => some (name, v.toStored)

/-- A directive names variables by their canonical names, and a default is that of its variable. -/
def Fits (r : Registry) : Directive → Prop
  | refuse _ => True
  | reset name v => ∃ spec, r.specs.get? name = some spec ∧ v = spec.default
  | store name _ _ => r.specs.contains name = true

/-- Does what is asked. -/
def run (call : Caller) (o : Outcome) : Directive → Run Outcome
  | refuse p => note call o p
  | reset name _ => do
    let _ ← ConfigVars.reset call name
    return o.counted
  | store name v place => ConfigVars.store call o name v place

/-- What comes of a directive: the problem that is reported, or none for an assignment. -/
inductive Done (call : Caller) (w : World) : Directive → Option Problem → World → Prop where
  | refused {p : Problem} {w' : World} (hreport : (report call p).ends w = (.ok (), w'))
      (hsame : w'.registry = w.registry) : Done call w (.refuse p) (some p) w'
  | reset (name : String) (v : Value) :
      Done call w (.reset name v) none
        { w with
          registry := { w.registry with values := w.registry.values.put name v.toStored } }
  | accepted {name : String} {v : Value} (place : Place) {w' : World}
      (hcheck : (validate call name v).ends w = (.ok true, w'))
      (hsame : w'.registry = w.registry) :
      Done call w (.store name v place) none
        { w' with
          registry := { w.registry with values := w.registry.values.put name v.toStored } }
  | rejected {name : String} {v : Value} {place : Place} {w₁ w' : World}
      (hcheck : (validate call name v).ends w = (.ok false, w₁))
      (hsame₁ : w₁.registry = w.registry)
      (hreport : (report call (.reading (.rejected name v) place)).ends w₁ = (.ok (), w'))
      (hsame : w'.registry = w.registry) :
      Done call w (.store name v place) (some (.reading (.rejected name v) place)) w'

variable {call : Caller} {w w' : World} {d : Directive} {result : Option Problem}

/-- A directive that fails changes nothing, and one that counts makes one assignment. -/
theorem Done.registry (h : d.Done call w result w') :
    (∃ p, result = some p ∧ w'.registry = w.registry) ∨
      ∃ name v, result = none ∧ d.assignment? = some (name, v) ∧
        w'.registry = { w.registry with values := w.registry.values.put name v } := by
  cases h with
  | refused _ hsame => exact .inl ⟨_, rfl, hsame⟩
  | reset name v => exact .inr ⟨name, _, rfl, rfl, rfl⟩
  | accepted _ _ _ => exact .inr ⟨_, _, rfl, rfl, rfl⟩
  | rejected _ _ _ hsame => exact .inl ⟨_, rfl, hsame⟩

theorem Done.revalued (h : d.Done call w result w') : w.registry.Revalued w'.registry := by
  rcases h.registry with ⟨p, -, hsame⟩ | ⟨name, v, -, -, hput⟩
  · exact .of_eq hsame
  · exact ⟨_, hput⟩

/-- What is done leaves a sound registry. -/
theorem Done.sound (hsound : w.registry.Sound) (hfits : d.Fits w.registry)
    (h : d.Done call w result w') : w'.registry.Sound := by
  cases h with
  | refused _ hsame => exact hsame ▸ hsound
  | reset name v =>
    obtain ⟨spec, hspec, -⟩ := hfits
    exact hsound.assign (Option.isSome_of_eq_some hspec) v
  | accepted _ _ _ => exact hsound.assign hfits _
  | rejected _ _ _ hsame => exact hsame ▸ hsound

theorem note_ends (hquiet : w.registry.Quiet call) (o : Outcome) (p : Problem) :
    ∃ w', (note call o p).ends w = (.ok (o.withProblem p), w') ∧
      (report call p).ends w = (.ok (), w') ∧ w'.registry = w.registry := by
  obtain ⟨w', hreport, hsame⟩ := hquiet.report_ends p
  refine ⟨w', ?_, hreport, hsame⟩
  rw [note, ends_bind, hreport]
  rfl

/-- A directive to store comes to an assignment or to a rejection. -/
theorem store_done (hquiet : w.registry.Quiet call) (hsound : w.registry.Sound)
    {name : String} (hdef : w.registry.specs.contains name = true) (o : Outcome) (v : Value)
    (place : Place) :
    ∃ result w', (ConfigVars.store call o name v place).ends w = (.ok (o.adding result), w') ∧
      (store name v place).Done call w result w' := by
  obtain ⟨spec, hspec⟩ := Option.isSome_iff_exists.mp hdef
  have hfind := hsound.find_of_get? hspec
  obtain ⟨valid, w₁, hcheck, hsame⟩ := hquiet.validate_ends hfind v
  rw [ConfigVars.store, ends_bind, hcheck]
  cases valid with
  | true =>
    -- the check has left the registry alone, so the name is found as before
    have hassign := assign_ends_silent call (hsame ▸ hfind)
      (hquiet.silent name spec hspec) v
    refine ⟨none, _, ?_, .accepted place hcheck hsame⟩
    dsimp only
    rw [if_pos rfl, ends_bind, hassign, hsame]
    rfl
  | false =>
    obtain ⟨w', hnote, hreport, hsame'⟩ := note_ends (hsame ▸ hquiet) o
      (.reading (.rejected name v) place)
    exact ⟨some _, w', hnote, .rejected hcheck hsame hreport (hsame'.trans hsame)⟩

/-- **In a quiet registry, what is asked is done.** -/
theorem run_done (hquiet : w.registry.Quiet call) (hsound : w.registry.Sound)
    (hfits : d.Fits w.registry) (o : Outcome) :
    ∃ result w', (d.run call o).ends w = (.ok (o.adding result), w') ∧
      d.Done call w result w' := by
  cases d with
  | refuse p =>
    obtain ⟨w', hnote, hreport, hsame⟩ := note_ends hquiet o p
    exact ⟨some p, w', hnote, .refused hreport hsame⟩
  | reset name v =>
    obtain ⟨spec, hspec, rfl⟩ := hfits
    have hfind := hsound.find_of_get? hspec
    refine ⟨none, _, ?_, .reset name spec.default⟩
    rw [run, ends_bind,
      reset_ends_silent call hfind hfind (hquiet.silent name spec hspec)]
    rfl
  | store name v place => exact store_done hquiet hsound hfits o v place

end Directive

/-! ### Accounts -/

/-- The parts of an input in their order, each with what came of what it asked. -/
inductive Account (call : Caller) (asks : Registry → ι → Directive → Prop) :
    World → List (ι × Option Problem) → World → Prop where
  | refl (w : World) : Account call asks w [] w
  | more {w w₁ w' : World} {i : ι} {d : Directive} {result : Option Problem}
      {entries : List (ι × Option Problem)} (hasks : asks w.registry i d)
      (hdone : d.Done call w result w₁) (rest : Account call asks w₁ entries w') :
      Account call asks w ((i, result) :: entries) w'

/-- An outcome with one more assignment or problem for each of some results. -/
def Outcome.tally (o : Outcome) (results : List (Option Problem)) : Outcome :=
  results.foldl Outcome.adding o

/-- What an error sink has been told, as an observation: a report adds its problem, and nothing else
adds anything. -/
structure Hears (call : Caller) (r : Registry) (told : World → List Problem) : Prop where
  report : ∀ p (w : World), r.Revalued w.registry →
    told ((report call p).ends w).2 = told w ++ [p]
  check : ∀ name v (w : World), r.Revalued w.registry →
    told ((validate call name v).ends w).2 = told w
  elsewhere : ∀ (w : World) registry, told { w with registry } = told w
  detail : ∀ message w, told ((detail message).ends w).2 = told w

section Hears

variable {call : Caller} {start : Registry} {told : World → List Problem} {w w' : World}

theorem Hears.of_report (h : Hears call start told) (hr : start.Revalued w.registry)
    {p : Problem} {result : Except Failure Unit}
    (hends : (ConfigVars.report call p).ends w = (result, w')) : told w' = told w ++ [p] := by
  rw [← h.report p w hr, hends]

end Hears

namespace Account

variable {call : Caller} {asks : Registry → ι → Directive → Prop} {w w' : World}
  {entries : List (ι × Option Problem)}

theorem revalued (h : Account call asks w entries w') : w.registry.Revalued w'.registry := by
  induction h with
  | refl w => exact .refl _
  | more _ hdone _ ih => exact hdone.revalued.trans ih

/-- A part of an account asked something of a registry with other values at most, and it was
done. -/
theorem of_mem (h : Account call asks w entries w') {entry : ι × Option Problem}
    (hmem : entry ∈ entries) :
    ∃ w₁ d w₂, w.registry.Revalued w₁.registry ∧ asks w₁.registry entry.1 d ∧
      d.Done call w₁ entry.2 w₂ := by
  induction h with
  | refl w => cases hmem
  | @more w w₁ w' i d result entries hasks hdone _ ih =>
    rcases List.mem_cons.mp hmem with rfl | hmem
    · exact ⟨w, d, w₁, .refl _, hasks, hdone⟩
    · obtain ⟨w₂, d', w₃, hr, hasks', hdone'⟩ := ih hmem
      exact ⟨w₂, d', w₃, hdone.revalued.trans hr, hasks', hdone'⟩

end Account

/-! ### Plain registries -/

/-- A registry whose variables have patterns for validators and no hooks, and whose error sink, if
it has one, only keeps what it is given. -/
structure Registry.Plain (r : Registry) : Prop where
  sink : r.settings.error.all Callable.isKeeper = true
  check : (r.validators.entries.all fun entry => entry.2.isSearch) = true
  silent : (r.specs.entries.all fun entry => entry.2.onChange.isNone) = true

instance (r : Registry) : Decidable r.Plain :=
  decidable_of_iff (_ ∧ _ ∧ _) ⟨fun h => ⟨h.1, h.2.1, h.2.2⟩, fun h => ⟨h.sink, h.check, h.silent⟩⟩

/-- Whether a sink is the recorder. -/
def Callable.isRecorder : Callable → Bool
  | .recorder => true
  | _ => false

theorem Callable.eq_recorder {sink? : Option Callable} (h : sink?.any isRecorder = true) :
    sink? = some .recorder := by
  obtain ⟨sink, rfl, hsink⟩ := (Option.any_eq_true _ _).mp h
  cases sink with
  | recorder => rfl
  | _ => cases hsink

/-- The problem that a recorder has left a record of. -/
def Event.problem? : Event → Option Problem
  | .problem p => some p
  | _ => none

/-- The problems that a recorder has kept. -/
def World.recorded (w : World) : List Problem := w.events.filterMap Event.problem?

namespace Registry.Plain

variable {r : Registry}

/-- A keeper takes every problem. -/
theorem call_keeper_ends {sink : Callable} (h : sink.isKeeper = true) (depth : Nat) (p : Problem)
    (w : World) :
    ∃ reply w', (Callable.call (depth + 1) sink false [.problem p]).ends w = (.ok reply, w') ∧
      w'.registry = w.registry := by
  cases sink with
  | recorder => exact ⟨_, _, rfl, rfl⟩
  | collector =>
    obtain ⟨registry, files, events, captures, detailed⟩ := w
    cases captures <;> exact ⟨_, _, rfl, rfl⟩
  | _ => cases h

theorem quiet (h : r.Plain) (depth : Nat) : r.Quiet (Callable.call (depth + 1)) where
  sink hook hhook p w _ := by
    have hkeeper := h.sink
    rw [hhook] at hkeeper
    exact call_keeper_ends hkeeper depth p w
  check name validator hv v w _ := by
    have hsearch := List.all_eq_true.mp h.check _ (Table.mem_entries_of_get? hv)
    cases validator with
    | search p => exact ⟨_, _, rfl, rfl⟩
    | predicate c => cases hsearch
  silent name spec hspec := silent_of_unhooked h.silent hspec

/-- What a recorder keeps is what the sink is told. -/
theorem hears (h : r.Plain) (hrecorder : r.settings.error = some .recorder) (depth : Nat) :
    Hears (Callable.call (depth + 1)) r World.recorded where
  report p w hr := by
    have hsink : w.registry.settings.error = some .recorder := hr.settings_eq ▸ hrecorder
    rw [ConfigVars.report, ends_bind_registry, hsink]
    exact List.filterMap_append
  check name v w hr := by
    rw [validate, ends_bind_registry]
    cases w.registry.find name with
    | error p => rfl
    | ok found =>
      obtain ⟨canonical, spec⟩ := found
      rw [orProblem_ok_bind]
      dsimp only
      cases hv : w.registry.validators.get? canonical with
      | none => rfl
      | some validator =>
        rw [hr.validators_eq] at hv
        have hsearch := List.all_eq_true.mp h.check _ (Table.mem_entries_of_get? hv)
        cases validator with
        | search p => rfl
        | predicate c => cases hsearch
  elsewhere w registry := rfl
  detail message w := by
    obtain ⟨registry, files, events, captures, detailed⟩ := w
    cases detailed with
    | true =>
      show (events ++ [Event.log "DEBUG" message]).filterMap Event.problem? = _
      rw [List.filterMap_append]
      exact List.append_nil _
    | false => rfl

end Registry.Plain

end ConfigVars
