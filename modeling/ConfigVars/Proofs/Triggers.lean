import ConfigVars.Proofs.Invariant

/-!
# Generated triggers and names

A variable whose triggers are generated is set on a command line by its name and its aliases, each
behind a minus sign.  A declaration enters its aliases first and its triggers after them, and the
two go by different rules: an alias that is the name of a variable is passed over, but its trigger
is entered all the same.

* `Naming`: the name of a variable and the aliases that a declaration gives it.
* `Registry.DeclaredBy`: the declarations, latest first, that a registry comes from.
* `latest`: the variable of the latest declaration that gives a name.

Where all declarations generate triggers, the trigger of a name leads to the variable of the latest
declaration that gives the name (`DeclaredBy.triggers_get?`), and so does an alias
(`DeclaredBy.aliases_get?`); but the name of a variable stands for that variable.  The two agree
therefore unless a later declaration has given the name of a variable to another one
(`trigger_agrees_iff_latest`).
-/

namespace ConfigVars

/-! ### Histories of declarations -/

/-- What a declaration calls a variable, folded. -/
structure Naming where
  canonical : String
  aliases : List String

/-- Whether a declaration gives a name. -/
def Naming.Gives (n : Naming) (name : String) : Prop := name = n.canonical ∨ name ∈ n.aliases

instance (n : Naming) (name : String) : Decidable (n.Gives name) :=
  inferInstanceAs (Decidable (_ ∨ _))

/-- The variable of the latest declaration that gives a name. -/
def latest (history : List Naming) (name : String) : Option String :=
  (history.find? fun n => decide (n.Gives name)).map Naming.canonical

theorem latest_cons (n : Naming) (history : List Naming) (name : String) :
    latest (n :: history) name =
      if n.Gives name then some n.canonical else latest history name := by
  rw [latest, latest, List.find?_cons]
  by_cases h : n.Gives name <;> simp [h]

namespace Registry

/-- A registry comes from declarations that generate triggers, latest first.  Values and the
environment may have changed in between. -/
inductive DeclaredBy : Registry → List Naming → Prop where
  | fresh {r : Registry} (hs : r.specs = ∅) (ha : r.aliases = ∅) (ht : r.triggers = ∅) :
      DeclaredBy r []
  | declare {r : Registry} {history : List Naming} (h : DeclaredBy r history) (name : String)
      {d : Declaration} (hd : d.spec.triggers = .generated true) :
      DeclaredBy (r.declare name d).1 (⟨r.fold name, d.spec.aliases.map r.fold⟩ :: history)
  | elsewhere {r : Registry} {history : List Naming} (h : DeclaredBy r history)
      (values : Table String Value) (environment : Environment) :
      DeclaredBy { r with values, environment } history

/-- The generated triggers of a declaration are those of the names that it gives. -/
theorem mem_tokens_iff {r : Registry} {name : String} {spec : VariableSpec}
    (h : spec.triggers = .generated true) (other : String) :
    "-" ++ other ∈ (spec.triggerTokens name).map r.fold ↔
      Naming.Gives ⟨r.fold name, spec.aliases.map r.fold⟩ other := by
  rw [VariableSpec.triggerTokens, h]
  simp only [List.map_map, List.map_cons, List.mem_cons, List.mem_map, Function.comp_apply,
    fold_dash, String.append_right_inj, Naming.Gives]

/-- The aliases that a declaration enters, apart from names of variables, are those that it
gives. -/
theorem mem_entered_iff {r : Registry} {given name : String} {spec : VariableSpec}
    (hfree : (r.specs.put (r.fold given) spec).contains name = false) :
    name ∈ (spec.aliases.filter fun alternative =>
        !(r.specs.put (r.fold given) spec).contains (r.fold alternative)).map r.fold ↔
      name ∈ spec.aliases.map r.fold := by
  simp only [List.mem_map, List.mem_filter]
  constructor
  · rintro ⟨alternative, ⟨hmem, -⟩, rfl⟩
    exact ⟨alternative, hmem, rfl⟩
  · rintro ⟨alternative, hmem, rfl⟩
    refine ⟨alternative, ⟨hmem, ?_⟩, rfl⟩
    rw [hfree]
    rfl

namespace DeclaredBy

variable {r : Registry} {history : List Naming}

/-- **A generated trigger leads to the variable that its name was given last.** -/
theorem triggers_get? (h : r.DeclaredBy history) (name : String) :
    r.triggers.get? ("-" ++ name) = latest history name := by
  induction h with
  | fresh hs ha ht =>
    rw [ht]
    rfl
  | declare _ given hd ih =>
    rw [declare_triggers_get?, latest_cons, ih]
    simp only [mem_tokens_iff hd name]
  | elsewhere _ _ _ ih => exact ih

/-- **An alias leads to the variable that it was given to last.** -/
theorem aliases_get? (h : r.DeclaredBy history) {name : String}
    (hfree : r.specs.contains name = false) : r.aliases.get? name = latest history name := by
  induction h with
  | fresh hs ha ht =>
    rw [ha]
    rfl
  | @declare r _ _ given d hd ih =>
    rw [declare_specs] at hfree
    -- what the declaration passes over is the name of a variable, so it is not this name
    rw [declare_aliases_get?, latest_cons]
    simp only [mem_entered_iff hfree, Naming.Gives]
    rw [Table.contains_put, Bool.or_eq_false_iff, decide_eq_false_iff_not] at hfree
    rw [if_neg hfree.1, ih hfree.2]
    simp only [hfree.1, false_or]
  | elsewhere _ _ _ ih => exact ih hfree

end DeclaredBy

/-- The trigger of a name and the name itself lead to the same variable exactly where the name is
that of no variable, or the variable itself was declared after all others that have the alias. -/
theorem DeclaredBy.agrees_iff {r : Registry} {history : List Naming} (h : r.DeclaredBy history)
    (hr : r.Sound) {name target : String} (ht : r.trigger? ("-" ++ name) = some target) :
    target = r.resolve name ↔
      (r.specs.contains (r.fold name) = true →
        latest history (r.fold name) = some (r.fold name)) := by
  have hlatest : latest history (r.fold name) = some target := by
    rw [← h.triggers_get?, ← fold_dash]
    exact ht
  rw [hlatest, Option.some_inj]
  cases hdef : r.specs.contains (r.fold name) with
  | true =>
    have hself : r.resolve (r.fold name) = r.resolve name := by
      rw [resolve, fold_fold, resolve]
    rw [← hself, hr.resolve_of_contains hdef]
    exact ⟨fun heq _ => heq, fun heq => heq rfl⟩
  | false =>
    have halias : r.resolve name = target := by
      rw [resolve, h.aliases_get? hdef, hlatest]
      rfl
    refine ⟨fun _ hcontra => ?_, fun _ => halias.symm⟩
    cases hcontra

end Registry

/-! ### Sessions of declarations -/

/-- Options make a variable with generated triggers, whose hook is in a family. -/
def Generates (globals : Table VariableField Value) (family : Callable → Prop)
    (options : List (Value × Value)) : Prop :=
  ∀ d, Declaration.ofOptions globals options = .ok d →
    d.spec.triggers = .generated true ∧ ∀ hook, d.spec.onChange = some hook → family hook

/-- A family of callables all of whose declarations generate triggers. -/
structure Generating (globals : Table VariableField Value) (family : Callable → Prop) : Prop where
  script : ∀ {s : Script}, family (.script s) → ∀ name options,
    Instruction.define name options ∈ s.body →
      Generates globals family (givenOptions options [])
  predicate : ∀ {c}, family (.validator (.predicate c)) → family c

/-- The worlds of a session that starts a registry with a sink from a family, and then declares
variables with generated triggers, whether or not that succeeds. -/
inductive Declares (globals : Table VariableField Value) (family : Callable → Prop)
    (call : Caller) : World → Prop where
  | start (w : World) {environment : Environment} {basis : SettingsBasis}
      {options : List (Value × Value)} {r : Registry}
      (hr : (Registry.create environment basis options).1 = r) (hglobals : r.globals = globals)
      (hsink : ∀ sink, r.settings.error = some sink → family sink) :
      Declares globals family call ((start call environment basis options).ends w).2
  | define {w : World} (h : Declares globals family call w) (name : String)
      {options : List (Value × Value)} {keywords : List (String × Value)}
      (hoptions : Generates globals family (givenOptions options keywords)) :
      Declares globals family call ((define call name options keywords).ends w).2
  | outside {w w' : World} (h : Declares globals family call w) {environment : Environment}
      (hr : w'.registry = { w.registry with environment }) : Declares globals family call w'

/-- What a registry keeps in such a session. -/
structure Registry.Generated (globals : Table VariableField Value) (family : Callable → Prop)
    (r : Registry) : Prop where
  sound : r.Sound
  globals_eq : r.globals = globals
  sink : ∀ {hook}, r.settings.error = some hook → family hook
  change : ∀ {name spec hook}, r.specs.get? name = some spec → spec.onChange = some hook →
    family hook
  declared : ∃ history, r.DeclaredBy history

section Generated

variable {globals : Table VariableField Value} {family : Callable → Prop} {r : Registry}

/-- A declaration with generated triggers is one more in the history. -/
theorem Registry.Generated.declare (h : r.Generated globals family) (name : String)
    {options : List (Value × Value)} (hoptions : Generates globals family options)
    {d : Declaration} (hd : Declaration.ofOptions r.globals options = .ok d) :
    Registry.Generated globals family (r.declare name d).1 := by
  rw [h.globals_eq] at hd
  obtain ⟨htriggers, hhook⟩ := hoptions d hd
  obtain ⟨history, hhistory⟩ := h.declared
  refine ⟨h.sound.declare name (Declaration.compiles hd), ?_, ?_, ?_,
    ⟨_, hhistory.declare name htriggers⟩⟩
  · rw [declare_globals]
    exact h.globals_eq
  · rw [declare_settings]
    exact h.sink
  · intro other spec hook hspec
    rw [declare_specs, Table.get?_put] at hspec
    split at hspec
    · cases hspec
      exact hhook hook
    · exact h.change hspec

theorem Registry.generated_settable : Settable (Registry.Generated globals family) := by
  intro r name v h hdef
  obtain ⟨history, hhistory⟩ := h.declared
  exact ⟨h.sound.assign hdef v, h.globals_eq, h.sink, h.change, ⟨history, hhistory.elsewhere _ _⟩⟩

/-- A family all of whose declarations generate triggers stays among itself. -/
theorem Generating.closed (h : Generating globals family) :
    Closed (Registry.Generated globals family) family where
  settable := Registry.generated_settable
  sink hr hsink := hr.sink hsink
  change hr hspec hhook := hr.change hspec hhook
  script {s} hs i hi := by
    cases i with
    | define name options => exact fun hr hd => hr.declare name (h.script hs name options hi) hd
    | _ => trivial
  predicate hc := h.predicate hc

theorem Declares.generated (hfamily : Generating globals family) {depth : Nat} {w : World}
    (hw : Declares globals family (Callable.call depth) w) :
    w.registry.Generated globals family := by
  have hclosed := hfamily.closed
  have hwrites := hclosed.writes (hclosed.call_alike depth)
  induction hw with
  | start w hr hglobals hsink =>
    subst hr
    refine (hwrites.reportAll _ { w with registry := _ } ?_).2
    refine ⟨Registry.create_sound _ _ _, hglobals, fun h => hsink _ h, fun hnone => ?_,
      ⟨[], .fresh rfl rfl rfl⟩⟩
    cases hnone
  | define _ name hoptions ih =>
    -- hooks and sink may declare variables as well, which the history then has on top
    exact (hwrites.define hclosed.settable name _ _
      (fun hr hd => hr.declare name hoptions hd) _ ih).2
  | outside _ hr ih =>
    obtain ⟨history, hhistory⟩ := ih.declared
    rw [hr]
    exact ⟨ih.sound.outside _, ih.globals_eq, ih.sink, ih.change,
      ⟨history, hhistory.elsewhere _ _⟩⟩

end Generated

/-- **Triggers and names agree, except where a name was given away.**  In a session whose
declarations all generate triggers, those that its callables make included, a trigger leads to the
variable of the latest declaration that gives its name; and this is what the name stands for,
unless the name is that of another variable. -/
theorem trigger_agrees_iff_latest (depth : Nat) {globals : Table VariableField Value}
    {family : Callable → Prop} (hfamily : Generating globals family) {w : World}
    (hw : Declares globals family (Callable.call depth) w) :
    ∃ history, w.registry.DeclaredBy history ∧
      ∀ name, w.registry.trigger? ("-" ++ name) = latest history (w.registry.fold name) ∧
        ∀ target, w.registry.trigger? ("-" ++ name) = some target →
          (target = w.registry.resolve name ↔
            (w.registry.specs.contains (w.registry.fold name) = true →
              latest history (w.registry.fold name) = some (w.registry.fold name))) := by
  have hgenerated := hw.generated hfamily
  obtain ⟨history, hhistory⟩ := hgenerated.declared
  refine ⟨history, hhistory, fun name => ⟨?_, fun target ht => ?_⟩⟩
  · rw [← hhistory.triggers_get?, ← Registry.fold_dash]
    rfl
  · exact hhistory.agrees_iff hgenerated.sound ht

/-! ### A session that gives a name away -/

/-- The options of a new registry without options for all variables. -/
def noGlobals : Table VariableField Value := (Registry.create (.own ∅ ∅) .none []).1.globals

/-- A session that declares a variable `one` and then a variable `two` with the alias `one`. -/
def givenAwaySession : World :=
  let declared := ((define Caller.standard "one" [(.text "command_triggers", .bool true)]
    []).ends (newSession [])).2
  ((define Caller.standard "two"
    [(.text "aliases", .text "one"), (.text "command_triggers", .bool true)] []).ends declared).2

/-- Options that make a variable with generated triggers and no hook. -/
theorem generates_of_unhooked {globals : Table VariableField Value}
    {options : List (Value × Value)}
    (h : (match Declaration.ofOptions globals options with
      | .ok d => decide (d.spec.triggers = .generated true) && d.spec.onChange.isNone
      | .error _ => true) = true) :
    Generates globals (fun _ => False) options := by
  intro d hd
  rw [hd] at h
  obtain ⟨htriggers, hhook⟩ := Bool.and_eq_true_iff.mp h
  refine ⟨of_decide_eq_true htriggers, fun hook hsome => ?_⟩
  rw [hsome] at hhook
  cases hhook

theorem givenAwaySession_declares :
    Declares noGlobals (fun _ => False) Caller.standard givenAwaySession := by
  refine ((Declares.start _ rfl rfl fun sink hsink => ?_).define "one" ?_).define "two" ?_
  · have hnone : (Registry.create (.own ∅ ∅) .none []).1.settings.error.isNone = true := by
      decide +kernel
    rw [hsink] at hnone
    cases hnone
  · exact generates_of_unhooked (by decide +kernel)
  · exact generates_of_unhooked (by decide +kernel)

theorem trigger_agrees_iff_latest_given_away :
    Generating noGlobals (fun _ => False) ∧
      Declares noGlobals (fun _ => False) Caller.standard givenAwaySession ∧
      ∃ history, givenAwaySession.registry.DeclaredBy history ∧
        latest history (givenAwaySession.registry.fold "one") = some "two" := by
  have hfamily : Generating noGlobals (fun _ => False) := ⟨fun h => h.elim, fun h => h⟩
  have hdeclares := givenAwaySession_declares
  refine ⟨hfamily, hdeclares, ?_⟩
  obtain ⟨history, hhistory, hagrees⟩ :=
    trigger_agrees_iff_latest maxCallDepth hfamily hdeclares
  refine ⟨history, hhistory, ?_⟩
  rw [← (hagrees "one").1]
  decide +kernel

/-- The trigger `-one` sets the variable `two`, though `one` is a variable of its own. -/
theorem given_away_trigger_leads_elsewhere :
    Declares noGlobals (fun _ => False) Caller.standard givenAwaySession ∧
      givenAwaySession.registry.trigger? ("-" ++ "one") = some "two" ∧
      givenAwaySession.registry.resolve "one" = "one" :=
  ⟨givenAwaySession_declares, by decide +kernel, by decide +kernel⟩

end ConfigVars
