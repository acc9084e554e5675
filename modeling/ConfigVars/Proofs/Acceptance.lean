import ConfigVars.Proofs.Invariant

/-!
# What readings store

Setting a variable checks nothing.  What keeps rejected values out of a registry is that the
readings of files and of command lines check a value for the variable that they then set to it, and
otherwise only reset variables.

* `Validator.Pure`: a validator whose answer depends on the name and the value alone.
* `Registry.Accepts`: the validator of a variable accepts a value.
* `Settled`: every value is one from before, or the default of its variable, or accepted.

Where validators are pure, no variable has a hook and the settings have none for readings, every
reading keeps a registry settled, as long as the error sink does (`readings_settle`).  The sink is
outside the readings: one that sets variables by itself can set them to anything
(`sink_sets_rejected_value`).
-/

namespace ConfigVars

open ConfigVars.Text Run

/-! ### Settled registries -/

/-- A validator answers by the name and the value alone, never fails, and leaves the registry as it
is. -/
def Validator.Pure (call : Caller) (validator : Validator) : Prop :=
  ∃ verdict : String → Value → Bool, ∀ name v w,
    ((validator.accepts call name v).ends w).1 = .ok (verdict name v) ∧
      ((validator.accepts call name v).ends w).2.registry = w.registry

/-- The validator of a variable, if it has one, accepts a value. -/
def Registry.Accepts (call : Caller) (r : Registry) (canonical : String) (v : Value) : Prop :=
  ∀ validator, r.validators.get? canonical = some validator →
    ∀ w, ((validator.accepts call canonical v).ends w).1 = .ok true

/-- A registry that keeps the settings from the start of some readings, has pure validators and no
hooks of variables, and whose values are from before, or defaults, or accepted. -/
structure Settled (call : Caller) (start r : Registry) : Prop where
  sound : r.Sound
  settings_eq : r.settings = start.settings
  silent : ∀ {name} {spec : VariableSpec}, r.specs.get? name = some spec → spec.onChange = none
  pure : ∀ {name} {validator : Validator}, r.validators.get? name = some validator →
    validator.Pure call
  value : ∀ {name v}, r.values.get? name = some v →
    start.values.get? name = some v ∨
      (∃ spec, r.specs.get? name = some spec ∧ v = spec.default.toStored) ∨
      r.Accepts call name v

namespace Settled

variable {call : Caller} {start r : Registry} {w : World}

/-- **A variable may take its default or a value that is accepted.** -/
theorem put (h : Settled call start r) {name : String} {v : Value}
    (hdef : r.specs.contains name = true)
    (hv : (∃ spec, r.specs.get? name = some spec ∧ v.toStored = spec.default.toStored) ∨
      r.Accepts call name v.toStored) :
    Settled call start { r with values := r.values.put name v.toStored } where
  sound := h.sound.assign hdef v
  settings_eq := h.settings_eq
  silent := h.silent
  pure := h.pure
  value {other u} hu := by
    rw [Table.get?_put] at hu
    split at hu
    · rename_i heq
      subst heq
      cases hu
      exact .inr hv
    · exact h.value hu

/-- A canonical name is found as it stands. -/
theorem find_canonical (h : Settled call start r) {name canonical : String} {spec : VariableSpec}
    (hfind : r.find name = .ok (canonical, spec)) : r.find canonical = .ok (canonical, spec) :=
  h.sound.find_of_get? (Registry.specs_get?_of_find hfind).2

/-! ### How settled operations end -/

/-- An assignment stores the value and does nothing else. -/
theorem assign_ends (h : Settled call start w.registry) {name canonical : String}
    {spec : VariableSpec} (hfind : w.registry.find name = .ok (canonical, spec)) (v : Value) :
    (assign call name v).ends w =
      (.ok (.bool true),
        { w with
          registry :=
            { w.registry with values := w.registry.values.put canonical v.toStored } }) :=
  assign_ends_silent call hfind (h.silent (Registry.specs_get?_of_find hfind).2) v

/-- A reset stores the default and does nothing else. -/
theorem reset_ends (h : Settled call start w.registry) {name canonical : String}
    {spec : VariableSpec} (hfind : w.registry.find name = .ok (canonical, spec)) :
    (reset call name).ends w =
      (.ok (.bool true),
        { w with
          registry := { w.registry with
            values := w.registry.values.put canonical spec.default.toStored } }) :=
  reset_ends_silent call hfind (h.find_canonical hfind)
    (h.silent (Registry.specs_get?_of_find hfind).2)

/-- A check ends with the verdict on the value, and leaves the registry as it is. -/
theorem validate_ends (h : Settled call start w.registry) {name canonical : String}
    {spec : VariableSpec} (hfind : w.registry.find name = .ok (canonical, spec)) (v : Value) :
    ∃ valid, ((validate call name v).ends w).1 = .ok valid ∧
      ((validate call name v).ends w).2.registry = w.registry ∧
      (valid = true ↔ w.registry.Accepts call canonical v) := by
  rw [validate, ends_bind_registry, hfind, orProblem_ok_bind]
  dsimp only
  unfold Registry.Accepts
  cases hv : w.registry.validators.get? canonical with
  | none =>
    refine ⟨true, rfl, rfl, fun _ validator hnone => ?_, fun _ => rfl⟩
    cases hnone
  | some validator =>
    obtain ⟨verdict, hverdict⟩ := h.pure hv
    refine ⟨verdict canonical v, (hverdict canonical v w).1, (hverdict canonical v w).2, ?_⟩
    -- one verdict speaks for all worlds, since the validator looks at nothing else
    constructor
    · rintro htrue _ ⟨⟩ w'
      rw [(hverdict canonical v w').1, htrue]
    · intro haccepts
      have htrue := haccepts validator rfl w
      rw [(hverdict canonical v w).1, Except.ok.injEq] at htrue
      exact htrue

/-- A value that is accepted is stored as it was checked, and any other is noted as rejected, in
a world whose registry is as before. -/
theorem store_ends (h : Settled call start w.registry) {name canonical : String}
    {spec : VariableSpec} (hfind : w.registry.find name = .ok (canonical, spec)) (o : Outcome)
    (v : Value) (place : Place) :
    ∃ w' : World, w'.registry = w.registry ∧
      ((w.registry.Accepts call canonical v ∧
          (store call o name v place).ends w =
            (.ok o.counted,
              { w' with
                registry :=
                  { w.registry with values := w.registry.values.put canonical v.toStored } })) ∨
        (¬ w.registry.Accepts call canonical v ∧
          (store call o name v place).ends w =
            (note call o (.reading (.rejected name v) place)).ends w')) := by
  obtain ⟨valid, hends, hsame, haccepts⟩ := h.validate_ends hfind v
  have hstore : (store call o name v place).ends w =
      Run.ends (if valid = true then do
          let _ ← assign call name v
          return o.counted
        else note call o (.reading (.rejected name v) place))
        ((validate call name v).ends w).2 := by
    rw [store, ends_bind]
    rcases hx : (validate call name v).ends w with ⟨result, w'⟩
    rw [hx] at hends
    cases hends
    rfl
  refine ⟨_, hsame, ?_⟩
  rw [hstore]
  cases valid with
  | true =>
    -- the check has left the registry alone, so the name is found as before
    rw [← hsame] at h hfind
    rw [if_pos rfl, ends_bind, h.assign_ends hfind v, hsame]
    exact .inl ⟨haccepts.mp rfl, rfl⟩
  | false =>
    rw [if_neg Bool.false_ne_true]
    exact .inr ⟨fun hv => Bool.false_ne_true (haccepts.mpr hv), rfl⟩

end Settled

/-! ### What readings keep -/

/-- Whatever the error sink does when a problem is reported, it leaves the registry settled. -/
def SinkSettles (call : Caller) (start : Registry) : Prop :=
  ∀ sink, start.settings.error = some sink → ∀ p (w : World), Settled call start w.registry →
    Settled call start ((call sink false [.problem p]).ends w).2.registry

section Readings

variable {call : Caller} {start : Registry}

/-- What a check calls leaves the registry as it is. -/
theorem Validator.Pure.call_idle {hook : Callable}
    (h : (Validator.predicate hook).Pure call) (name : String) (v : Value) (w : World) :
    ((call hook false [.text name, v]).ends w).2.registry = w.registry := by
  obtain ⟨verdict, hverdict⟩ := h
  have hsame := (hverdict name v w).2
  have hunfold : (Validator.predicate hook).accepts call name v =
      (do return (← call hook false [.text name, v]).answer.isTruthy) := rfl
  rw [hunfold, ends_bind] at hsame
  rcases hx : (call hook false [.text name, v]).ends w with ⟨result, w'⟩
  rw [hx] at hsame
  cases result <;> exact hsame

/-- Readings call nothing but the sink and pure validators, and these keep a registry settled. -/
theorem settled_hooks (hsink : SinkSettles call start)
    (hread : ∀ hook, ¬ start.settings.Reads hook) :
    HooksAlike (Settled call start) call call where
  sink hr herror p w hw := by
    rw [hr.settings_eq] at herror
    exact ⟨rfl, hsink _ herror p w hw⟩
  change hr hspec hhook := by
    rw [hr.silent hspec] at hhook
    cases hhook
  check hr hv v := Alike.idle ((hr.pure hv).call_idle _ v)
  reading hr hhook := by
    rw [hr.settings_eq] at hhook
    exact absurd hhook (hread _)

theorem toStored_of_present {v : Value} (h : v.isAbsent = false) : v.toStored = v := by
  rw [Value.toStored, h]
  rfl

/-- **Storing and resetting keep a registry settled.** -/
theorem settled_ingests (hsink : SinkSettles call start)
    (hread : ∀ hook, ¬ start.settings.Reads hook) :
    Ingests (Settled call start) call call where
  toHooksAlike := settled_hooks hsink hread
  store o name v place hpresent w hw := by
    refine ⟨rfl, ?_⟩
    cases hfind : w.registry.find name with
    | error p =>
      rw [store, validate, ends_bind, ends_bind_registry, hfind]
      exact hw
    | ok found =>
      obtain ⟨canonical, spec⟩ := found
      have hspec := (Registry.specs_get?_of_find hfind).2
      obtain ⟨w', hsame, ⟨haccepts, hends⟩ | ⟨-, hends⟩⟩ := hw.store_ends hfind o v place
      -- a value that is there is stored as it was checked
      · rw [hends]
        refine hw.put (Option.isSome_of_eq_some hspec) (.inr ?_)
        rw [toStored_of_present hpresent]
        exact haccepts
      · rw [hends]
        exact ((settled_hooks hsink hread).note o _ w' (hsame ▸ hw)).2
  reset name w hw := by
    refine ⟨rfl, ?_⟩
    cases hfind : w.registry.find name with
    | error p =>
      rw [reset_ends, hfind]
      exact hw
    | ok found =>
      obtain ⟨canonical, spec⟩ := found
      have hspec := (Registry.specs_get?_of_find hfind).2
      rw [hw.reset_ends hfind]
      exact hw.put (Option.isSome_of_eq_some hspec) (.inl ⟨spec, hspec, rfl⟩)

end Readings

/-! ### Runs of readings -/

/-- The worlds that readings of files and of command lines come to, one after the other, whether or
not they succeed.  Between two of them, files and environment may change. -/
inductive Readings (call : Caller) (w : World) : World → Prop where
  | refl : Readings call w w
  | source {w' : World} (h : Readings call w w') (s : Source) :
      Readings call w ((readSource call s).ends w').2
  | arguments {w' : World} (h : Readings call w w') (argv : List Value) :
      Readings call w ((readArguments call argv).ends w').2
  | outside {w' w'' : World} (h : Readings call w w') {environment : Environment}
      (hr : w''.registry = { w'.registry with environment }) : Readings call w w''

/-- Whether a registry is settled has nothing to do with the environment. -/
theorem Settled.outside {call : Caller} {start r : Registry} (h : Settled call start r)
    (environment : Environment) : Settled call start { r with environment } :=
  ⟨h.sound.outside environment, h.settings_eq, h.silent, h.pure, h.value⟩

theorem Readings.settled {call : Caller} {start : Registry} {w w' : World}
    (hreads : Ingests (Settled call start) call call) (hw : Settled call start w.registry)
    (h : Readings call w w') : Settled call start w'.registry := by
  induction h with
  | refl => exact hw
  | source _ s ih => exact (hreads.readSource s _ ih).2
  | arguments _ argv ih => exact (hreads.readArguments argv _ ih).2
  | outside _ hr ih => exact hr ▸ ih.outside _

/-! ### Lines that count -/

namespace Settled

variable {call : Caller} {start : Registry} {w w' : World}

/-- Where a value has been accepted, the variable may be checked for it again. -/
theorem validate_of_accepts (h : Settled call start w.registry) {name canonical : String}
    {spec : VariableSpec} (hfind : w.registry.find name = .ok (canonical, spec)) {v : Value}
    (haccepts : w.registry.Accepts call canonical v) :
    ((validate call name v).ends w).1 = .ok true := by
  obtain ⟨valid, hends, -, hiff⟩ := h.validate_ends hfind v
  rw [hends, hiff.mpr haccepts]

/-- Storing counts only where the value is accepted, and then this value is stored. -/
theorem store_counts (h : Settled call start w.registry) {name canonical : String}
    {spec : VariableSpec} (hfind : w.registry.find name = .ok (canonical, spec)) {o : Outcome}
    {v : Value} (hpresent : v.isAbsent = false) {place : Place}
    (hends : (store call o name v place).ends w = (.ok o.counted, w')) :
    w.registry.Accepts call canonical v ∧
      w'.registry = { w.registry with values := w.registry.values.put canonical v } := by
  obtain ⟨w₁, -, ⟨haccepts, hstored⟩ | ⟨-, hnoted⟩⟩ := h.store_ends hfind o v place
  · rw [hstored, toStored_of_present hpresent] at hends
    cases hends
    exact ⟨haccepts, rfl⟩
  · rw [hnoted] at hends
    have hproblem := note_answers call o _ w₁ o.counted (congrArg Prod.fst hends)
    exact absurd hproblem (o.counted_ne_withProblem _)

/-- A line for a variable counts only where it resets the variable, or where its value is accepted,
and then this value is stored. -/
theorem applyValue_counts (h : Settled call start w.registry) {name : String} {o : Outcome}
    {value : Option (List Char)} {place : Place}
    (hends : (applyValue call o name value place).ends w = (.ok o.counted, w')) :
    ∃ canonical spec, w.registry.find name = .ok (canonical, spec) ∧
      ((lineValue w.registry spec value = .ok none ∧
          w'.registry = { w.registry with
            values := w.registry.values.put canonical spec.default.toStored }) ∨
        ∃ v, lineValue w.registry spec value = .ok (some v) ∧
          w.registry.Accepts call canonical v ∧
          w'.registry = { w.registry with values := w.registry.values.put canonical v }) := by
  rw [applyValue_ends] at hends
  cases hfind : w.registry.find name with
  | error p =>
    rw [hfind] at hends
    cases hends
  | ok found =>
    obtain ⟨canonical, spec⟩ := found
    rw [hfind] at hends
    dsimp only at hends
    refine ⟨canonical, spec, rfl, ?_⟩
    cases hvalue : lineValue w.registry spec value with
    | error f =>
      rw [hvalue] at hends
      cases hends
    | ok v? =>
      rw [hvalue] at hends
      cases v? with
      | none =>
        dsimp only at hends
        rw [ends_bind, h.reset_ends hfind] at hends
        cases hends
        exact .inl ⟨rfl, rfl⟩
      | some v => exact .inr ⟨v, rfl, h.store_counts hfind (lineValue_present hvalue) hends⟩

/-- A line counts only as one for the variable that its name stands for. -/
theorem applyLine_counts (h : Settled call start w.registry) {source : String} {o : Outcome}
    {line : LogicalLine} {a : Assignment} (hline : line.Assigns a)
    (hends : (applyLine call none source o line).ends w = (.ok o.counted, w')) :
    let r := w.registry
    ∃ canonical spec, r.find (r.resolve (String.ofList a.name)) = .ok (canonical, spec) ∧
      ((lineValue r spec a.value = .ok none ∧
          w'.registry = { r with values := r.values.put canonical spec.default.toStored }) ∨
        ∃ v, lineValue r spec a.value = .ok (some v) ∧
          ((validate call canonical v).ends w).1 = .ok true ∧
          w'.registry = { r with values := r.values.put canonical v }) := by
  intro r
  rw [applyLine_ends hline] at hends
  split at hends
  · obtain ⟨canonical, spec, hfind, hreset | ⟨v, hvalue, haccepts, hstored⟩⟩ :=
      h.applyValue_counts hends
    · exact ⟨canonical, spec, hfind, .inl hreset⟩
    · exact ⟨canonical, spec, hfind, .inr ⟨v, hvalue,
        h.validate_of_accepts (h.find_canonical hfind) haccepts, hstored⟩⟩
  · have hproblem := note_answers call o _ w o.counted (congrArg Prod.fst hends)
    exact absurd hproblem (o.counted_ne_withProblem _)

end Settled

/-- **Readings store only values that are accepted.**  Where validators are pure, no variable has a
hook, and the settings have none for readings, every value behind any readings is from before, or
the default of its variable, or one that the validator accepts, as long as the error sink leaves it
so.  A line that counts has reset its variable, or has stored the very value that was checked: the
one that the line gives, expanded. -/
theorem readings_settle (depth : Nat) {w : World} (hw : Reachable (Callable.call depth) w)
    (hread : ∀ hook, ¬ w.registry.settings.Reads hook)
    (hsilent : ∀ name spec, w.registry.specs.get? name = some spec → spec.onChange = none)
    (hpure : ∀ name validator, w.registry.validators.get? name = some validator →
      validator.Pure (Callable.call depth))
    (hsink : SinkSettles (Callable.call depth) w.registry) {w' : World}
    (h : Readings (Callable.call depth) w w') :
    let call := Callable.call depth
    (∀ name v, w'.registry.values.get? name = some v →
      w.registry.values.get? name = some v ∨
        (∃ spec, w'.registry.specs.get? name = some spec ∧ v = spec.default.toStored) ∨
        ((validate call name v).ends w').1 = .ok true) ∧
    ∀ source before o w₁ line a w₂,
      (applyLines call none source (.fresh source) before).ends w' = (.ok o, w₁) →
      LogicalLine.Assigns line a →
      (applyLine call none source o line).ends w₁ = (.ok o.counted, w₂) →
        let r := w₁.registry
        ∃ canonical spec, r.find (r.resolve (String.ofList a.name)) = .ok (canonical, spec) ∧
          ((lineValue r spec a.value = .ok none ∧
              w₂.registry = { r with values := r.values.put canonical spec.default.toStored }) ∨
            ∃ v, lineValue r spec a.value = .ok (some v) ∧
              ((validate call canonical v).ends w₁).1 = .ok true ∧
              w₂.registry = { r with values := r.values.put canonical v }) := by
  intro call
  have hstart : Settled call w.registry w.registry :=
    ⟨hw.sound, rfl, fun hspec => hsilent _ _ hspec, fun hv => hpure _ _ hv, fun hv => .inl hv⟩
  have hreads := settled_ingests hsink hread
  have hsettled := h.settled hreads hstart
  refine ⟨fun name v hv => ?_, fun source before o w₁ line a w₂ hbefore hline hends => ?_⟩
  · rcases hsettled.value hv with hkept | hdefault | haccepts
    · exact .inl hkept
    · exact .inr (.inl hdefault)
    · obtain ⟨spec, hspec⟩ := Option.isSome_iff_exists.mp (hsettled.sound.contains_of_value hv)
      have hfind := hsettled.sound.find_of_get? hspec
      exact .inr (.inr (hsettled.validate_of_accepts hfind haccepts))
  · have hhook : w'.registry.settings.lineParse = none := by
      rw [hsettled.settings_eq]
      cases hparse : w.registry.settings.lineParse with
      | none => rfl
      | some hook => exact absurd (.inr (.inl hparse)) (hread hook)
    have hbetween : Settled call w.registry w₁.registry :=
      hreads.applyLines_keep hsettled hhook hbefore
    exact hbetween.applyLine_counts hline hends

/-! ### A session with a checked variable -/

/-- A pattern is a pure validator. -/
theorem Validator.search_pure (call : Caller) (p : Pattern) : (Validator.search p).Pure call :=
  ⟨fun _ v => finds p v, fun _ _ _ => ⟨rfl, rfl⟩⟩

/-- Whether a validator is a pattern. -/
def Validator.isSearch : Validator → Bool
  | .search _ => true
  | .predicate _ => false

theorem pure_of_searches {call : Caller} {r : Registry}
    (h : (r.validators.entries.all fun e => e.2.isSearch) = true) {name : String}
    {validator : Validator} (hv : r.validators.get? name = some validator) : validator.Pure call := by
  have hsearch := List.all_eq_true.mp h _ (Table.mem_entries_of_get? hv)
  cases validator with
  | search p => exact Validator.search_pure call p
  | predicate c => cases hsearch

theorem silent_of_unhooked {r : Registry}
    (h : (r.specs.entries.all fun e => e.2.onChange.isNone) = true) {name : String}
    {spec : VariableSpec} (hspec : r.specs.get? name = some spec) : spec.onChange = none :=
  Option.isNone_iff_eq_none.mp (List.all_eq_true.mp h _ (Table.mem_entries_of_get? hspec))

theorem not_reads_of_unhooked {s : Settings}
    (h : (s.fileParse.isNone && s.lineParse.isNone && s.cmdParse.isNone && s.argParse.isNone) =
      true) (hook : Callable) : ¬ s.Reads hook := by
  simp only [Bool.and_eq_true, Option.isNone_iff_eq_none] at h
  obtain ⟨⟨⟨hfile, hline⟩, hcmd⟩, harg⟩ := h
  rw [Settings.Reads, hfile, hline, hcmd, harg]
  rintro (h | h | h | h) <;> cases h

/-- Whether a sink only keeps what it is given. -/
def Callable.isKeeper : Callable → Bool
  | .recorder | .collector => true
  | _ => false

/-- A sink that only keeps what it is given leaves the registry as it is. -/
theorem Callable.call_keeper {sink : Callable} (h : sink.isKeeper = true) (depth : Nat)
    (p : Problem) (w : World) :
    ((Callable.call depth sink false [.problem p]).ends w).2.registry = w.registry := by
  cases depth with
  | zero => rfl
  | succ depth =>
    cases sink with
    | recorder => rfl
    | collector =>
      obtain ⟨registry, files, events, captures, detailed⟩ := w
      cases captures <;> rfl
    | _ => cases h

theorem sinkSettles_of_keeper {depth : Nat} {start : Registry}
    (h : start.settings.error.all Callable.isKeeper = true) :
    SinkSettles (Callable.call depth) start := by
  intro sink hsink p w hw
  rw [hsink] at h
  rw [Callable.call_keeper h depth p w]
  exact hw

/-- A session with an error sink, whose variable `x` takes digits and has the default `1`. -/
def checkedSession (sink : Callable) : World :=
  (((Operation.define "x" [(.text "default", .text "1"), (.text "validator", .text "^[0-9]+$")]
    []).run Caller.standard).ends (newSession [(.text "error", .callable sink)])).2

theorem checkedSession_reachable (sink : Callable) :
    Reachable Caller.standard (checkedSession sink) :=
  (Reachable.start _ _ _ _).operation _

/-- Reading two lines in a session that records its problems. -/
theorem checked_lines_settle :
    let w := checkedSession .recorder
    let w' := ((readSource Caller.standard (.lines ["x 5", "x y"])).ends w).2
    Reachable Caller.standard w ∧ (∀ hook, ¬ w.registry.settings.Reads hook) ∧
      (∀ name spec, w.registry.specs.get? name = some spec → spec.onChange = none) ∧
      (∀ name validator, w.registry.validators.get? name = some validator →
        validator.Pure Caller.standard) ∧
      SinkSettles Caller.standard w.registry ∧ Readings Caller.standard w w' ∧
      ∀ v, w'.registry.values.get? "x" = some v →
        w.registry.values.get? "x" = some v ∨
          (∃ spec, w'.registry.specs.get? "x" = some spec ∧ v = spec.default.toStored) ∨
          ((validate Caller.standard "x" v).ends w').1 = .ok true := by
  intro w w'
  have hw : Reachable Caller.standard w := checkedSession_reachable .recorder
  have hread : ∀ hook, ¬ w.registry.settings.Reads hook :=
    not_reads_of_unhooked (by decide +kernel)
  have hsilent : ∀ name spec, w.registry.specs.get? name = some spec → spec.onChange = none :=
    fun _ _ => silent_of_unhooked (by decide +kernel)
  have hpure : ∀ name validator, w.registry.validators.get? name = some validator →
      validator.Pure Caller.standard := fun _ _ => pure_of_searches (by decide +kernel)
  have hsink : SinkSettles Caller.standard w.registry := sinkSettles_of_keeper (by decide +kernel)
  have hrun : Readings Caller.standard w w' := Readings.refl.source _
  exact ⟨hw, hread, hsilent, hpure, hsink, hrun,
    (readings_settle maxCallDepth hw hread hsilent hpure hsink hrun).1 "x"⟩

/-- A sink that sets the variable `x` to a value that is not digits. -/
def settingSink : Callable :=
  .script
    { id := "sink"
      guard := none
      otherwise := .nothing
      body := [.set "x" (.text "bad")]
      failure := none
      answer := .value .nothing }

/-- Reading a line for no variable in a session whose sink sets `x` leaves `x` with a value that is
not the one from before nor its default, and that its validator rejects. -/
theorem sink_sets_rejected_value :
    let w := checkedSession settingSink
    let w' := ((readSource Caller.standard (.lines ["nosuch 1"])).ends w).2
    Reachable Caller.standard w ∧ (∀ hook, ¬ w.registry.settings.Reads hook) ∧
      (∀ name spec, w.registry.specs.get? name = some spec → spec.onChange = none) ∧
      (∀ name validator, w.registry.validators.get? name = some validator →
        validator.Pure Caller.standard) ∧
      Readings Caller.standard w w' ∧ w.registry.values.get? "x" = some (.text "1") ∧
      (w'.registry.specs.get? "x").map (·.default) = some (.text "1") ∧
      w'.registry.values.get? "x" = some (.text "bad") ∧
      ((validate Caller.standard "x" (.text "bad")).ends w').1 = .ok false := by
  intro w w'
  have hrejected : (match ((validate Caller.standard "x" (.text "bad")).ends w').1 with
      | .ok valid => !valid
      | .error _ => false) = true := by
    decide +kernel
  refine ⟨checkedSession_reachable _, not_reads_of_unhooked (by decide +kernel),
    fun _ _ => silent_of_unhooked (by decide +kernel),
    fun _ _ => pure_of_searches (by decide +kernel), Readings.refl.source _,
    Value.eq_text_of_any_same (by decide +kernel), Value.eq_text_of_any_same (by decide +kernel),
    Value.eq_text_of_any_same (by decide +kernel), ?_⟩
  split at hrejected
  · rename_i valid hends
    cases valid with
    | true => cases hrejected
    | false => exact hends
  · cases hrejected

end ConfigVars
