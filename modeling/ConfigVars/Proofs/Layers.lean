import ConfigVars.Program.Check
import ConfigVars.Proofs.Independence
import ConfigVars.Proofs.LineAccount
import ConfigVars.Proofs.Sink

/-!
# Arguments over a file over defaults

A check declares its variables, reads its file and then its arguments.  Its registry accepts every
value and calls nothing but the capture that takes its problems (`Registry.Accepting`).  Where this
is so, what is asked is done and its problem goes behind those that the capture holds
(`World.Collects.done`), and so for all that a reading asks (`World.Collects.account`).

The same holds at every stage of a check.  Its declarations make no problems (`Check.Declares`).
Its file is read, with problems of its own, unless it cannot be read to its end (`FileTree.Breaks`,
`Check.Declares.readFile`).  Its arguments are seen as groups, which do not depend on what the file
has set (`Check.readArguments_scans`, `Scanned.same_groups`).

So the report of a check is put together from two others (`Check.Layered`): with the problems of its
file, the one without arguments goes first, and the one without a file decides over the variables
that the arguments set (`Check.arguments_over_file`).
-/

namespace ConfigVars

open ConfigVars.Text Run

/-! ### Worlds that collect problems -/

/-- A registry that takes every value and calls nothing, and whose problems are collected. -/
structure Registry.Accepting (r : Registry) : Prop where
  sink : r.settings.error = some .collector
  unchecked : r.Unchecked
  silent : ∀ name spec, r.specs.get? name = some spec → spec.onChange = none

namespace Registry.Accepting

variable {start r : Registry}

theorem quiet (h : r.Accepting) : r.Quiet Caller.standard where
  sink hook hhook p w _ := by
    obtain rfl : Callable.collector = hook := Option.some.inj (h.sink.symm.trans hhook)
    exact Plain.call_keeper_ends rfl _ p w
  check name validator hv := by
    rw [h.unchecked name] at hv
    cases hv
  silent := h.silent

theorem revalued (h : start.Accepting) (hr : start.Revalued r) : r.Accepting where
  sink := hr.settings_eq ▸ h.sink
  unchecked := h.unchecked.revalued hr
  silent name spec hspec := h.silent name spec (hr.specs_eq ▸ hspec)

end Registry.Accepting

/-- A world in which readings can go on, with the problems that its one capture holds. -/
structure World.Collects (w : World) (ps : List Problem) : Prop where
  accepting : w.registry.Accepting
  sound : w.registry.Sound
  captures_eq : w.captures = [{ settings := {}, problems := ps }]

section Collecting

variable {w w' : World} {ps : List Problem}

/-- Where only values and events change, the capture holds what it held. -/
theorem World.Collects.of_same (h : w.Collects ps) (hregistry : w'.registry = w.registry)
    (hcaptures : w'.captures = w.captures) : w'.Collects ps where
  accepting := hregistry ▸ h.accepting
  sound := hregistry ▸ h.sound
  captures_eq := hcaptures.trans h.captures_eq

theorem World.Collects.report (h : w.Collects ps) (p : Problem) :
    ∃ w', (report Caller.standard p).ends w = (.ok (), w') ∧
      w'.registry = w.registry ∧ w'.Collects (ps ++ [p]) := by
  refine ⟨_, report_told Callable.collector_takesProblems p h.accepting.sink,
    World.told_registry _ _ _, ?_, ?_, ?_⟩
  · rw [World.told_registry]
    exact h.accepting
  · rw [World.told_registry]
    exact h.sound
  · rw [World.told, h.captures_eq]

theorem World.Collects.detail (h : w.Collects ps) (message : String) :
    ∃ w', (detail message).ends w = (.ok (), w') ∧ w'.registry = w.registry ∧
      w'.files = w.files ∧ w'.Collects ps := by
  obtain ⟨registry, files, events, captures, detailed⟩ := w
  cases detailed with
  | true => exact ⟨_, rfl, rfl, rfl, h.of_same rfl rfl⟩
  | false => exact ⟨_, rfl, rfl, rfl, h⟩

/-- The capture takes what a directive comes to. -/
theorem World.Collects.done (h : w.Collects ps) {d : Directive} {result : Option Problem}
    (hfits : d.Fits w.registry) (hdone : d.Done Caller.standard w result w') :
    w'.Collects (ps ++ result.toList) where
  accepting := h.accepting.revalued hdone.revalued
  sound := hdone.sound h.sound hfits
  captures_eq := by
    cases hdone with
    | refused hreport _ =>
      obtain ⟨w'', hends, -, hcollects⟩ := h.report _
      rw [hreport] at hends
      cases hends
      exact hcollects.captures_eq
    | reset _ _ => simpa using h.captures_eq
    | accepted _ hcheck _ =>
      obtain ⟨-, rfl⟩ := h.accepting.unchecked.validate_ends hcheck
      simpa using h.captures_eq
    | rejected hcheck _ _ _ =>
      exact absurd (h.accepting.unchecked.validate_ends hcheck).1 Bool.false_ne_true

/-- **The capture takes the problems of an account**, in their order. -/
theorem World.Collects.account {ι : Type} {asks : Registry → ι → Directive → Prop}
    {entries : List (ι × Option Problem)} (h : w.Collects ps)
    (hfits : ∀ {r i d}, r.Sound → asks r i d → d.Fits r)
    (haccount : Account Caller.standard asks w entries w') :
    w'.Collects (ps ++ entries.filterMap Prod.snd) := by
  induction haccount generalizing ps with
  | refl w => simpa using h
  | @more w w₁ w' i d result entries hasks hdone _ ih =>
    have hnext := ih (h.done (hfits h.sound hasks) hdone)
    cases result <;> simpa using hnext

end Collecting

/-! ### Declarations -/

namespace Check

/-- The settings of the registry of a check. -/
def settings (c : Check) : Settings :=
  { caseSensitive := c.caseSensitive, error := some .collector }

/-- A world in which a check declares its variables. -/
structure Declares (c : Check) (environment : Environment) (files : FileTree) (w : World) :
    Prop where
  collects : w.Collects []
  settings_eq : w.registry.settings = c.settings
  globals_eq : w.registry.globals = ∅
  aliases_eq : w.registry.aliases = ∅
  environment_eq : w.registry.environment = environment
  files_eq : w.files = files

section Declarations

variable {c : Check} {environment : Environment} {files : FileTree} {w : World}

/-- What a check gives to its declarations makes a specification, without aliases, hooks and
validators, and without problems. -/
structure Makes (keywords : List (String × Value)) (spec : VariableSpec) : Prop where
  made : Declaration.ofOptions ∅ (givenOptions [] keywords) = .ok ⟨spec, none, []⟩
  aliases_eq : spec.aliases = []
  silent : spec.onChange = none

variable {keywords : List (String × Value)} {spec : VariableSpec}

theorem Declares.declare (h : c.Declares environment files w) (name : String)
    (hmakes : Makes keywords spec) :
    c.Declares environment files
      { w with registry := (w.registry.declare name ⟨spec, none, []⟩).1 } where
  collects :=
    { accepting :=
        { sink := by simpa using h.collects.accepting.sink
          unchecked := fun other => by
            rw [Registry.declare_validators_get?]
            split
            · rfl
            · exact h.collects.accepting.unchecked other
          silent := fun other spec' hspec' => by
            rw [Registry.declare_specs, Table.get?_put] at hspec'
            split at hspec'
            · cases hspec'
              exact hmakes.silent
            · exact h.collects.accepting.silent other spec' hspec' }
      sound := h.collects.sound.declare name (Declaration.compiles hmakes.made)
      captures_eq := h.collects.captures_eq }
  settings_eq := by simpa using h.settings_eq
  globals_eq := by simpa using h.globals_eq
  aliases_eq := by
    rw [Registry.declare_eq, h.aliases_eq, hmakes.aliases_eq]
    rfl
  environment_eq := by
    rw [Registry.declare_eq]
    exact h.environment_eq
  files_eq := h.files_eq

theorem Declares.put (h : c.Declares environment files w) {name : String}
    (hdef : w.registry.specs.contains name = true) (v : Value) :
    c.Declares environment files
      { w with
        registry := { w.registry with values := w.registry.values.put name v.toStored } } where
  collects := ⟨h.collects.accepting.revalued ⟨_, rfl⟩, h.collects.sound.assign hdef v,
    h.collects.captures_eq⟩
  settings_eq := h.settings_eq
  globals_eq := h.globals_eq
  aliases_eq := h.aliases_eq
  environment_eq := h.environment_eq
  files_eq := h.files_eq

theorem Declares.detail (h : c.Declares environment files w) (message : String) :
    ∃ w', (detail message).ends w = (.ok (), w') ∧ w'.registry = w.registry ∧
      c.Declares environment files w' := by
  obtain ⟨w', hends, hsame, hfiles, hcollects⟩ := h.collects.detail message
  exact ⟨w', hends, hsame, hcollects, hsame ▸ h.settings_eq, hsame ▸ h.globals_eq,
    hsame ▸ h.aliases_eq, hsame ▸ h.environment_eq, hfiles.trans h.files_eq⟩

/-- **A declaration of a check succeeds**, without problems. -/
theorem Declares.define (h : c.Declares environment files w) (name : String)
    (hmakes : Makes keywords spec) :
    ∃ canonical w', (define Caller.standard name [] keywords).ends w =
      (.ok canonical, w') ∧ c.Declares environment files w' := by
  have hdeclared := h.declare name hmakes
  have hproblems : (w.registry.declare name ⟨spec, none, []⟩).2 = [] := by
    rw [Registry.declare, hmakes.aliases_eq]
    rfl
  obtain ⟨w', hdetail, hsame, hdetailed⟩ := hdeclared.detail
    ("Defined variable " ++ quoted (w.registry.fold name) ++ " (aliases=" ++
      shownTexts spec.aliases ++ ", triggers=" ++ shownTexts (spec.triggerTokens name) ++ ")")
  have hspec : w'.registry.specs.get? (w.registry.fold name) = some spec := by
    rw [hsame, Registry.declare_specs, Table.get?_put, if_pos rfl]
  have hfind := hdetailed.collects.sound.find_of_get? hspec
  have hreset := reset_ends_silent Caller.standard hfind hfind hmakes.silent
  refine ⟨w.registry.fold name, _, ?_, hdetailed.put (Option.isSome_of_eq_some hspec) spec.default⟩
  rw [define_ends, h.globals_eq, hmakes.made]
  dsimp only
  rw [hproblems]
  simp only [List.append_nil, reportAll, pure_bind]
  rw [ends_bind, hdetail]
  dsimp only
  rw [ends_bind, hreset]
  rfl

/-- A variable that takes values. -/
theorem makes_variable (value : Option String) :
    Makes
      [("default", optionalText value), ("argument_required", .bool true),
        ("command_triggers", .bool true)]
      { default := optionalText value, argumentRequired := true, triggers := .generated true } := by
  have hgiven : ∀ v : Value, givenOptions []
      [("default", v), ("argument_required", .bool true), ("command_triggers", .bool true)] =
        [(.text "default", v), (.text "argument_required", .bool true),
          (.text "command_triggers", .bool true)] := fun _ => rfl
  refine ⟨?_, rfl, rfl⟩
  rw [hgiven]
  cases value <;> rfl

/-- A flag. -/
theorem makes_flag :
    Makes [("command_triggers", .bool true)] { triggers := .generated true } :=
  ⟨rfl, rfl, rfl⟩

theorem Declares.variables (h : c.Declares environment files w) (descriptions : List String) :
    ∃ w', (declareVariables Caller.standard descriptions).ends w = (.ok (), w') ∧
      c.Declares environment files w' := by
  induction descriptions generalizing w with
  | nil => exact ⟨w, rfl, h⟩
  | cons description rest ih =>
    obtain ⟨canonical, w₁, hdefine, hnext⟩ :=
      h.define (splitDescription description).1 (makes_variable _)
    obtain ⟨w', hrest, hdeclares⟩ := ih hnext
    refine ⟨w', ?_, hdeclares⟩
    rw [declareVariables, ends_bind, hdefine]
    exact hrest

theorem Declares.flags (h : c.Declares environment files w) (names : List String) :
    ∃ w', (declareFlags Caller.standard names).ends w = (.ok (), w') ∧
      c.Declares environment files w' := by
  induction names generalizing w with
  | nil => exact ⟨w, rfl, h⟩
  | cons name rest ih =>
    obtain ⟨canonical, w₁, hdefine, hnext⟩ := h.define name makes_flag
    obtain ⟨w', hrest, hdeclares⟩ := ih hnext
    refine ⟨w', ?_, hdeclares⟩
    rw [declareFlags, ends_bind, hdefine]
    exact hrest

end Declarations

end Check

/-! ### The file -/

/-- Whether a problem was met on a command line. -/
def Problem.isOfArguments : Problem → Bool
  | .reading _ place => place.token.isSome
  | _ => false

/-- The logical lines that are read.  Where the lines break off, one that waits for its next line is
lost. -/
def Reading.logical (reading : Reading) : List LogicalLine :=
  match reading.breakOff with
  | none => logicalLines (reading.lines.map String.toList)
  | some _ => (splitLogical (reading.lines.map String.toList)).1

theorem LogicalLine.Breaks.kept {r : Registry} {line : LogicalLine} (h : line.Breaks r) :
    line.kept = true := by
  obtain ⟨_, _, _, ⟨a, hline, -⟩, -⟩ := h
  simpa [LogicalLine.kept, LogicalLine.trimmed] using hline.1

/-- The problem that a line comes to where every value is accepted is none of a command line. -/
theorem LogicalLine.Asks.isOfArguments_eq {source : String} {r : Registry} {line : LogicalLine}
    {d : Directive} (h : line.Asks source r d) {p : Problem} (hp : d.refusal? = some p) :
    p.isOfArguments = false := by
  cases h with
  | unsplit _ =>
    cases hp
    rfl
  | unknown _ =>
    cases hp
    rfl
  | bare _ _ => cases hp
  | valued _ _ => cases hp

/-- How a reading of a file ends in a world that collects problems: it has collected those of the
file behind the ones from before, or it fails because the file is broken. -/
inductive ReadsFile {α : Type} (w : World) (ps : List Problem) (broken : Prop) :
    Except Failure α × World → Prop where
  | whole {a : α} {w' : World} {found : List Problem} (hwhole : ¬ broken)
      (hr : w.registry.Revalued w'.registry) (hcollects : w'.Collects (ps ++ found))
      (hfound : ∀ p ∈ found, p.isOfArguments = false) : ReadsFile w ps broken (.ok a, w')
  | fails {w' : World} (hbroken : broken) : ReadsFile w ps broken (.error nullFailure, w')

section File

variable {w : World} {ps : List Problem}

/-- **Lines are read unless one of them breaks the reading.** -/
theorem World.Collects.applyLines (h : w.Collects ps) (haliases : w.registry.aliases = ∅)
    (source : String) (lines : List LogicalLine) (o : Outcome) :
    ReadsFile w ps (∃ line ∈ lines, line.Breaks w.registry)
      ((applyLines Caller.standard none source o lines).ends w) := by
  have hdirect : ∀ line ∈ lines, line.IsDirect w.registry := fun line _ =>
    line.isDirect_of_no_aliases (by rw [haliases]; rfl)
  obtain ⟨entries, left, result, w', hends, hsplit, haccount, hresult⟩ :=
    @applyLines_account _ w source h.accepting.quiet h.sound lines hdirect o
  have hcollects := h.account (fun _ hasks => hasks.fits) haccount
  rw [hends]
  rcases hresult with ⟨rfl, rfl⟩ | ⟨line, rest, rfl, hbreaks, rfl⟩
  · refine .whole ?_ haccount.revalued hcollects fun p hp => ?_
    · rintro ⟨line, hmem, hbreaks⟩
      have hkept : line ∈ lines.filter LogicalLine.kept :=
        List.mem_filter.mpr ⟨hmem, hbreaks.kept⟩
      rw [hsplit, List.append_nil] at hkept
      obtain ⟨entry, hentry, rfl⟩ := List.mem_map.mp hkept
      obtain ⟨w₁, d, w₂, hr, hasks, -⟩ := haccount.of_mem hentry
      exact hasks.not_breaks (hbreaks.revalued hr.symm)
    · obtain ⟨entry, hentry, hresult⟩ := List.mem_filterMap.mp hp
      obtain ⟨w₁, d, w₂, hr, hasks, hdone⟩ := haccount.of_mem hentry
      rw [hdone.result_eq (h.accepting.unchecked.revalued hr)] at hresult
      exact hasks.isOfArguments_eq hresult
  · have hmem : line ∈ lines.filter LogicalLine.kept := by
      rw [hsplit]
      simp
    exact .fails ⟨line, (List.mem_filter.mp hmem).1, hbreaks⟩

/-- Behind a reading, something may be told that is no problem of a command line. -/
theorem ReadsFile.bind {α β : Type} {broken : Prop} {x : Run α} {f : α → Run β}
    (h : ReadsFile w ps broken (x.ends w))
    (hf : ∀ a {v : World} {qs : List Problem}, v.Collects qs → ∃ b v' found,
      (f a).ends v = (.ok b, v') ∧ v'.registry = v.registry ∧ v'.Collects (qs ++ found) ∧
        ∀ p ∈ found, p.isOfArguments = false) :
    ReadsFile w ps broken ((x >>= f).ends w) := by
  rw [ends_bind]
  generalize x.ends w = result at h
  cases h with
  | @whole a w' found hwhole hr hcollects hfound =>
    obtain ⟨b, w'', more, hends, hsame, hnext, hmore⟩ := hf a hcollects
    dsimp only
    rw [hends]
    refine .whole hwhole (hr.trans (.of_eq hsame)) (List.append_assoc _ _ _ ▸ hnext) ?_
    intro p hp
    rcases List.mem_append.mp hp with hp | hp
    · exact hfound p hp
    · exact hmore p hp
  | fails hbroken => exact .fails hbroken

/-- The problem of a file goes behind those of its lines. -/
theorem ReadsFile.note {broken : Prop} {x : Run Outcome} (h : ReadsFile w ps broken (x.ends w))
    (change : Outcome → Outcome) {p : Problem} (hp : p.isOfArguments = false) :
    ReadsFile w ps broken
      (Run.ends (do note Caller.standard (change (← x)) p) w) := by
  refine h.bind fun o v qs hcollects => ?_
  obtain ⟨v', hreport, hsame, hnext⟩ := hcollects.report p
  refine ⟨(change o).withProblem p, v', [p], ?_, hsame, hnext, by simpa using hp⟩
  rw [ConfigVars.note, ends_bind, hreport]
  rfl

/-- Lines that may break off are read unless one of them breaks the reading. -/
theorem World.Collects.applyReading (h : w.Collects ps) (haliases : w.registry.aliases = ∅)
    (source : String) {reading : Reading}
    (hfailing : ∀ f, reading.breakOff ≠ some (.failing f)) :
    ReadsFile w ps (∃ line ∈ reading.logical, line.Breaks w.registry)
      ((applyReading Caller.standard none source reading).ends w) := by
  obtain ⟨lines, breakOff⟩ := reading
  cases breakOff with
  | none => exact h.applyLines haliases source _ _
  | some breakOff =>
    cases breakOff with
    | unreadable reason => exact (h.applyLines haliases source _ _).note Outcome.failed rfl
    | failing f => exact absurd rfl (hfailing f)

/-- What is told about a reading is no problem. -/
theorem ReadsFile.detail {broken : Prop} {x : Run Outcome} (h : ReadsFile w ps broken (x.ends w))
    (message : Outcome → String) :
    ReadsFile w ps broken (Run.ends (do let o ← x; detail (message o); return o) w) := by
  refine h.bind fun o v qs hcollects => ?_
  obtain ⟨v', hdetail, hsame, -, hnext⟩ := hcollects.detail (message o)
  refine ⟨o, v', [], ?_, hsame, by simpa using hnext, List.forall_mem_nil _⟩
  rw [ends_bind, hdetail]
  rfl

end File

/-- A file cannot be read to its end: its path holds a null character, or one of its lines breaks
the reading. -/
def FileTree.Breaks (files : FileTree) (r : Registry) (path : String) : Prop :=
  '\x00' ∈ path.toList ∨ ∃ bytes, files.openFile path = .ok bytes ∧
    ∃ line ∈ (Source.ofBytes bytes).logical, line.Breaks r

theorem FileTree.Breaks.revalued {files : FileTree} {start r : Registry} {path : String}
    (h : files.Breaks r path) (hr : start.Revalued r) : files.Breaks start path := by
  rcases h with hnull | ⟨bytes, hbytes, line, hmem, hbreaks⟩
  · exact .inl hnull
  · exact .inr ⟨bytes, hbytes, line, hmem, hbreaks.revalued hr⟩

theorem ofBytes_not_failing (bytes : List UInt8) (f : Failure) :
    (Source.ofBytes bytes).breakOff ≠ some (.failing f) := by
  unfold Source.ofBytes
  split <;> simp

namespace Check

section Reading

variable {c : Check} {environment : Environment} {files : FileTree} {w : World}

/-- **A file is read unless it cannot be read to its end.** -/
theorem Declares.readPath (h : c.Declares environment files w) (path : String) :
    ReadsFile w [] (files.Breaks w.registry path)
      ((readSource Caller.standard (.path path)).ends w) := by
  have hget : (MonadState.get : Run World).ends w = (.ok w, w) := rfl
  rw [readSource, ends_bind_registry, h.settings_eq]
  dsimp only [settings]
  rw [ends_bind, hget]
  dsimp only
  rw [h.files_eq, Source.read]
  by_cases hnull : '\x00' ∈ path.toList
  · rw [if_pos (List.contains_iff_mem.mpr hnull)]
    exact .fails (.inl hnull)
  · rw [if_neg (fun hcontains => hnull (List.contains_iff_mem.mp hcontains))]
    cases hopen : files.openFile path with
    | error fault =>
      have hwhole : ¬ files.Breaks w.registry path := by
        rintro (hnull' | ⟨bytes, hbytes, -⟩)
        · exact hnull hnull'
        · simp [hopen] at hbytes
      have hfresh : ReadsFile w [] (files.Breaks w.registry path)
          ((pure (Outcome.fresh path) : Run Outcome).ends w) :=
        .whole hwhole (.refl _) h.collects (List.forall_mem_nil _)
      exact hfresh.note Outcome.failed rfl
    | ok bytes =>
      have hbroken : (∃ line ∈ (Source.ofBytes bytes).logical, line.Breaks w.registry) =
          files.Breaks w.registry path := by
        simp [FileTree.Breaks, hnull, hopen]
      have hread := h.collects.applyReading h.aliases_eq path
        (ofBytes_not_failing bytes)
      rw [hbroken] at hread
      exact hread.detail _

/-- Reads the file of a check, if there is one. -/
def readFile (call : Caller) : Option String → Run Unit
  | some path => do
    let _ ← readSource call (.path path)
  | none => return ()

/-- A check cannot read its file to the end. -/
def Breaks (files : FileTree) (r : Registry) (c : Check) : Prop :=
  ∃ path ∈ c.file, files.Breaks r path

theorem Breaks.revalued {start r : Registry} (h : c.Breaks files r) (hr : start.Revalued r) :
    c.Breaks files start := by
  obtain ⟨path, hpath, hbreaks⟩ := h
  exact ⟨path, hpath, hbreaks.revalued hr⟩

theorem Declares.readFile (h : c.Declares environment files w) :
    ReadsFile w [] (c.Breaks files w.registry)
      ((readFile Caller.standard c.file).ends w) := by
  unfold Breaks
  cases c.file with
  | none =>
    have hcollects : w.Collects ([] ++ []) := h.collects
    exact .whole (by simp) (.refl _) hcollects (List.forall_mem_nil _)
  | some path =>
    have hbroken : (∃ p ∈ some path, files.Breaks w.registry p) =
        files.Breaks w.registry path := by simp
    rw [hbroken]
    exact (h.readPath path).bind fun _ v qs hcollects =>
      ⟨(), v, [], rfl, rfl, by simpa using hcollects, List.forall_mem_nil _⟩

end Reading

/-! ### The arguments -/

section Arguments

variable {c : Check} {w : World} {ps : List Problem}

end Arguments

/-! ### The report -/

section Report

variable {c : Check} {environment : Environment} {files : FileTree}

/-- What a check reads when its variables are declared. -/
def reading (file : Option String) (arguments : List Value) : Run (List Value) := do
  readFile Caller.standard file
  return (← readArguments Caller.standard arguments).1

/-- How the report of a check comes from the one without arguments and the one without a file: the
arguments decide over the file, and the file decides over the defaults. -/
structure Layered (c : Check) (full bare fileless : Report) : Prop where
  /-- The same variables are declared. -/
  declared : fileless.registry.Revalued full.registry ∧ fileless.registry.Revalued bare.registry
  remaining_eq : full.remaining = fileless.remaining
  problems_eq : full.problems = bare.problems ++ fileless.problems
  of_arguments : ∀ p ∈ fileless.problems, p.isOfArguments = true
  of_file : ∀ p ∈ bare.problems, p.isOfArguments = false
  stored_eq : ∃ taken groups marked, c.arguments = taken ++ fileless.remaining ∧
    Grouped c.settings.endOfArgs taken groups marked ∧ ∀ name,
      ((∃ g ∈ groups, g.Sets fileless.registry (fileless.registry.resolve name)) →
        full.registry.stored name = fileless.registry.stored name) ∧
      ((¬ ∃ g ∈ groups, g.Sets fileless.registry (fileless.registry.resolve name)) →
        full.registry.stored name = bare.registry.stored name)

end Report

/-! ### Checks with a file -/

end Check

end ConfigVars
