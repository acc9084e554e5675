import ConfigVars.Proofs.LineAccount
import ConfigVars.Proofs.Refusal

/-!
# How a reading of lines ends

In a quiet registry a line gives an outcome, and leaves a registry that is as quiet and as sound
(`Returns`, `applyLine_returns`).  There is one line that does not: one that is for a variable that
is expanded and gives it a value that cannot be (`LogicalLine.Fails`).  It fails whatever the lines
before it have set (`applyLine_fails`).

So a reading of lines gives an outcome if none of them fails, and otherwise it fails as they do
(`Concludes`, `applyLines_concludes`, `readSource_concludes`).  That holds for chained names too;
where a name is not chained, its line fails exactly if it breaks the reading
(`LogicalLine.IsDirect.fails_iff`).
-/

namespace ConfigVars

open ConfigVars.Text Run

variable {α β : Type}

/-! ### Runs that return -/

/-- A run that gives an answer, changes values at most and leaves a sound registry, wherever the
registry is sound and differs from a given one in values only. -/
def Returns (start : Registry) (x : Run α) : Prop :=
  ∀ w : World, start.Revalued w.registry → w.registry.Sound →
    ∃ a w', x.ends w = (.ok a, w') ∧ start.Revalued w'.registry ∧ w'.registry.Sound

namespace Returns

variable {start : Registry}

theorem pure (a : α) : Returns start (Pure.pure a) := fun w hr hsound => ⟨a, w, rfl, hr, hsound⟩

theorem bind {x : Run α} {f : α → Run β} (hx : Returns start x) (hf : ∀ a, Returns start (f a)) :
    Returns start (x >>= f) := fun w hr hsound => by
  obtain ⟨a, w', hends, hr', hsound'⟩ := hx w hr hsound
  rw [ends_bind, hends]
  exact hf a w' hr' hsound'

/-- A run that leaves the registry as it is, wherever it differs from a given one in values only. -/
theorem of_harmless {x : Run α} (hx : Harmless start x) : Returns start x := fun w hr hsound => by
  obtain ⟨a, w', hends, hsame⟩ := hx w hr
  exact ⟨a, w', hends, hsame ▸ hr, hsame ▸ hsound⟩

end Returns

/-! ### What a line does, when it returns -/

section Lines

variable {call : Caller} {start : Registry} {name canonical : String} {spec : VariableSpec}

theorem note_returns (hquiet : start.Quiet call) (o : Outcome) (p : Problem) :
    Returns start (note call o p) :=
  .bind (.of_harmless fun _ hr => ⟨(), (hquiet.revalued hr).report_ends p⟩) fun _ => .pure _

theorem assign_returns (hquiet : start.Quiet call) (hfind : start.find name = .ok (canonical, spec))
    (v : Value) : Returns start (assign call name v) := fun w hr hsound => by
  have hspec := (Registry.specs_get?_of_find hfind).2
  have hdef : w.registry.specs.contains canonical = true := by
    rw [hr.specs_eq]
    exact Option.isSome_of_eq_some hspec
  exact ⟨_, _, assign_ends_silent call ((hr.find_eq name).trans hfind)
    (hquiet.silent canonical spec hspec) v, hr.trans ⟨_, rfl⟩, hsound.assign hdef v⟩

theorem reset_returns (hquiet : start.Quiet call)
    (hfind : start.find name = .ok (canonical, spec)) : Returns start (reset call name) := fun w hr hsound => by
  have hself : start.find canonical = .ok (canonical, spec) := by
    rw [← hr.find_eq]
    exact hsound.find_of_get? (hr.specs_eq ▸ (Registry.specs_get?_of_find hfind).2)
  rw [reset_ends, hr.find_eq, hfind]
  exact assign_returns hquiet hself spec.default w hr hsound

theorem store_returns (hquiet : start.Quiet call) (hfind : start.find name = .ok (canonical, spec))
    (o : Outcome) (v : Value) (place : Place) : Returns start (store call o name v place) := by
  refine .bind (.of_harmless fun _ hr => ?_) fun valid => ?_
  · exact (hquiet.revalued hr).validate_ends ((hr.find_eq name).trans hfind) v
  · cases valid with
    | true => exact (assign_returns hquiet hfind v).bind fun _ => .pure _
    | false => exact note_returns hquiet o _

theorem applyValue_returns (hquiet : start.Quiet call)
    (hfind : start.find name = .ok (canonical, spec)) {value : Option (List Char)}
    (hvalue : ∀ cs, value = some cs → spec.expand = true → ¬ NullHome start.environment cs)
    (o : Outcome) (place : Place) : Returns start (applyValue call o name value place) :=
  fun w hr hsound => by
  rw [applyValue_ends, hr.find_eq, hfind]
  dsimp only
  cases hv : lineValue w.registry spec value with
  | error f =>
    obtain ⟨⟨cs, hcs, hexpand, hnull⟩, -⟩ := lineValue_error_iff.mp hv
    obtain ⟨values, hvalues⟩ := hr
    rw [hvalues] at hnull
    exact absurd hnull (hvalue cs hcs hexpand)
  | ok v? =>
    cases v? with
    | none => exact ((reset_returns hquiet hfind).bind fun _ => .pure _) w hr hsound
    | some v => exact store_returns hquiet hfind o v place w hr hsound

end Lines

/-! ### Lines that fail -/

namespace LogicalLine

variable {line : LogicalLine} {start r : Registry}

/-- The value of a line is to be expanded and cannot be, for the variable that what its name stands
for is a name of. -/
def Fails (r : Registry) (line : LogicalLine) : Prop :=
  ∃ a canonical spec cs, line.Assigns a ∧
    r.find (r.resolve (String.ofList a.name)) = .ok (canonical, spec) ∧ a.value = some cs ∧
      spec.expand = true ∧ NullHome r.environment cs

/-- Where the name of a line is not chained, the line fails exactly if it breaks the reading. -/
theorem IsDirect.fails_iff (hdirect : line.IsDirect r) (hr : r.Sound) :
    line.Fails r ↔ line.Breaks r := by
  constructor
  · rintro ⟨a, canonical, spec, cs, hline, hfind, hvalue, hexpand, hnull⟩
    obtain ⟨rfl, hspec⟩ := Registry.specs_get?_of_find hfind
    have hdef : r.isDefined (String.ofList a.name) = true :=
      (hr.isDefined_resolve.mp (Option.isSome_of_eq_some hspec)).resolve_right (hdirect a hline)
    rw [hr.find_resolve hdef] at hfind
    exact ⟨_, spec, cs, ⟨a, hline, hfind, hvalue⟩, hexpand, hnull⟩
  · rintro ⟨canonical, spec, cs, ⟨a, hline, hfind, hvalue⟩, hexpand, hnull⟩
    have hdef : r.isDefined (String.ofList a.name) = true := by
      obtain ⟨rfl, hspec⟩ := Registry.specs_get?_of_find hfind
      exact Option.isSome_of_eq_some hspec
    exact ⟨a, canonical, spec, cs, hline, (hr.find_resolve hdef).trans hfind, hvalue, hexpand,
      hnull⟩

theorem Fails.revalued (h : line.Fails start) (hr : start.Revalued r) : line.Fails r := by
  obtain ⟨values, rfl⟩ := hr
  exact h

end LogicalLine

section Reading

variable {call : Caller} {start : Registry} {line : LogicalLine} {source : String}

/-- **A line that does not fail returns.** -/
theorem applyLine_returns (hquiet : start.Quiet call) (source : String)
    (hline : ¬ line.Fails start) (o : Outcome) :
    Returns start (applyLine call none source o line) := fun w hr hsound => by
  cases hkept : line.kept with
  | false => exact ⟨o, w, applyLine_of_ignored hkept o, hr, hsound⟩
  | true =>
    rcases LogicalLine.kept_cases hkept with ⟨-, hnone⟩ | ⟨a, ha⟩
    · rw [applyLine_of_unsplit hkept hnone]
      exact note_returns hquiet o _ w hr hsound
    · rw [applyLine_ends ha]
      split
      · rename_i hdef
        obtain ⟨spec, hspec⟩ := Option.isSome_iff_exists.mp hdef
        rw [hr.specs_eq, hr.resolve_eq, hr.resolve_eq] at hspec
        have hfind : start.find (start.resolve (String.ofList a.name)) =
            .ok (start.resolve (start.resolve (String.ofList a.name)), spec) := by
          rw [Registry.find, hspec]
        rw [hr.resolve_eq]
        refine applyValue_returns hquiet hfind (fun cs hcs hexpand hnull => hline ?_)
          o _ w hr hsound
        exact ⟨a, _, spec, cs, ha, hfind, hcs, hexpand, hnull⟩
      · exact note_returns hquiet o _ w hr hsound

/-- **A line that fails does so whatever values there are.** -/
theorem applyLine_fails (call : Caller) {w : World} (hline : line.Fails w.registry) (o : Outcome) :
    (applyLine call none source o line).ends w = (.error nullFailure, w) := by
  obtain ⟨a, canonical, spec, cs, ha, hfind, hvalue, hexpand, hnull⟩ := hline
  have hdef : w.registry.isDefined (w.registry.resolve (String.ofList a.name)) = true := by
    obtain ⟨rfl, hspec⟩ := Registry.specs_get?_of_find hfind
    exact Option.isSome_of_eq_some hspec
  have hfails : lineValue w.registry spec a.value = .error nullFailure :=
    lineValue_error_iff.mpr ⟨⟨cs, hvalue, hexpand, hnull⟩, rfl⟩
  rw [applyLine_ends ha, if_pos hdef, applyValue_ends, hfind]
  dsimp only
  rw [hfails]

/-! ### How a reading ends -/

/-- How a reading of lines ends: with an outcome if none of them fails, and otherwise with the
failure of a line. -/
inductive Concludes (r : Registry) (lines : List LogicalLine) : Except Failure Outcome → Prop where
  | returns (hnone : ∀ line ∈ lines, ¬ line.Fails r) (o : Outcome) : Concludes r lines (.ok o)
  | fails {line : LogicalLine} (hmem : line ∈ lines) (hfails : line.Fails r) :
      Concludes r lines (.error nullFailure)

/-- A line in front that does not fail leaves the end to the others. -/
theorem Concludes.cons {lines : List LogicalLine} {result : Except Failure Outcome}
    (h : Concludes start lines result) (hline : ¬ line.Fails start) :
    Concludes start (line :: lines) result := by
  cases h with
  | returns hnone o => exact .returns (List.forall_mem_cons.mpr ⟨hline, hnone⟩) o
  | fails hmem hfails => exact .fails (List.mem_cons_of_mem _ hmem) hfails

/-- What is made of an outcome has no part in how a reading ends. -/
theorem Concludes.map {lines : List LogicalLine} {result : Except Failure Outcome}
    (h : Concludes start lines result) (g : Outcome → Outcome) :
    Concludes start lines (result.map g) := by
  cases h with
  | returns hnone o => exact .returns hnone (g o)
  | fails hmem hfails => exact .fails hmem hfails

/-- In an environment of its own, a program looks up no home that the system refuses to tell. -/
theorem Concludes.exists_outcome {lines : List LogicalLine} {result : Except Failure Outcome}
    (h : Concludes start lines result) (hown : start.environment.isOwn = true) :
    ∃ o, result = .ok o := by
  cases h with
  | returns _ o => exact ⟨o, rfl⟩
  | fails _ hfails =>
    obtain ⟨-, -, -, -, -, -, -, -, vars, -, hprocess, -⟩ := hfails
    rw [hprocess] at hown
    cases hown

/-- **Lines give an outcome unless one of them fails.** -/
theorem applyLines_concludes (hquiet : start.Quiet call) (source : String)
    (lines : List LogicalLine) {w : World} (hr : start.Revalued w.registry)
    (hsound : w.registry.Sound) (o : Outcome) :
    Concludes start lines ((applyLines call none source o lines).ends w).1 := by
  induction lines generalizing w o with
  | nil => exact .returns (by rintro _ ⟨⟩) o
  | cons line rest ih =>
    rw [applyLines, ends_bind]
    by_cases hline : line.Fails start
    · rw [applyLine_fails call (hline.revalued hr)]
      exact .fails List.mem_cons_self hline
    · obtain ⟨o₁, w₁, hends, hr₁, hsound₁⟩ :=
        applyLine_returns hquiet source hline o w hr hsound
      rw [hends]
      exact (ih hr₁ hsound₁ o₁).cons hline

/-- A reading of a source ends as one of what it reads, with the hook that there is for lines. -/
theorem readSource_applyReading (call : Caller) {w : World}
    (hfile : w.registry.settings.fileParse = none) {s : Source} {reading : Reading}
    (hread : s.read w.files = .ok reading) :
    SameEnd (readSource call s)
      (applyReading call w.registry.settings.lineParse s.name reading) w := by
  rw [SameEnd, readSource_reads call hfile hread]
  exact sameEnd_detail _ _ w

/-- A reading of a source ends as one of what it reads. -/
theorem readSource_sameEnd (call : Caller) {w : World}
    (hfile : w.registry.settings.fileParse = none) (hhook : w.registry.settings.lineParse = none)
    {s : Source} {reading : Reading} (hread : s.read w.files = .ok reading) :
    SameEnd (readSource call s) (applyReading call none s.name reading) w :=
  hhook ▸ readSource_applyReading call hfile hread

/-- A reading of a source ends as one of its lines. -/
theorem readSource_lines (call : Caller) {w : World}
    (hfile : w.registry.settings.fileParse = none) (hhook : w.registry.settings.lineParse = none)
    {s : Source} {lines : List String} (hread : s.read w.files = .ok { lines }) :
    SameEnd (readSource call s)
      (applyLines call none s.name (.fresh s.name) (logicalLines (lines.map String.toList))) w :=
  readSource_sameEnd call hfile hhook hread

/-- Lines leave the settings as they are, whatever validators and hooks of variables do. -/
theorem applyLines_settings (depth : Nat) {w : World}
    (hhook : w.registry.settings.lineParse = none) (source : String) (o : Outcome)
    (lines : List LogicalLine) :
    ((applyLines (Callable.call depth) none source o lines).ends w).2.registry.settings =
      w.registry.settings := by
  have hstable := Registry.settings_stable w.registry.settings
  have hreads := (Callable.call_alike hstable depth).hooks.ingests hstable.settable
  exact (hreads.applyLines rfl hhook source lines o w rfl).2

/-- **A source gives an outcome unless one of its lines fails.** -/
theorem readSource_concludes {w : World} (hquiet : w.registry.Quiet call)
    (hsound : w.registry.Sound) (hfile : w.registry.settings.fileParse = none)
    (hhook : w.registry.settings.lineParse = none) {s : Source} {lines : List String}
    (hread : s.read w.files = .ok { lines }) :
    Concludes w.registry (logicalLines (lines.map String.toList))
      ((readSource call s).ends w).1 := by
  rw [(readSource_lines call hfile hhook hread).1]
  exact applyLines_concludes hquiet s.name _ (.refl w.registry) hsound (.fresh s.name)

end Reading

/-! ### A session that records its problems -/

/-- A session that records its problems, whose variable `x` takes digits. -/
def recordingSession : World := checkedSession .recorder

theorem recordingSession_reachable : Reachable Caller.standard recordingSession :=
  checkedSession_reachable .recorder

theorem recordingSession_plain : recordingSession.registry.Plain := by decide +kernel

theorem recordingSession_idleSink :
    recordingSession.registry.settings.IdleSink Caller.standard :=
  Settings.idleSink_of_keeper recordingSession_plain.sink _

theorem recordingSession_unhooked :
    recordingSession.registry.settings.fileParse = none ∧
      recordingSession.registry.settings.lineParse = none :=
  ⟨Option.isNone_iff_eq_none.mp (by decide +kernel),
    Option.isNone_iff_eq_none.mp (by decide +kernel)⟩

/-- A reading in the session gives an outcome. -/
theorem recordingSession_concludes {lines : List LogicalLine} {result : Except Failure Outcome}
    (h : recordingSession.registry.Quiet Caller.standard →
      Concludes recordingSession.registry lines result) : ∃ o, result = .ok o :=
  (h (recordingSession_plain.quiet _)).exists_outcome (by decide +kernel)

end ConfigVars
