import ConfigVars.Proofs.Account
import ConfigVars.Proofs.AliasHops
import ConfigVars.Proofs.Continuation
import Mathlib.Data.List.DropRight

/-!
# The account of a file

A reading of a file keeps the logical lines that are neither blank nor comments
(`LogicalLine.kept`).  What a kept line asks of a registry (`LogicalLine.Asks`) depends on how it
starts, on the variable that its name stands for, and on what its value expands to.

In a quiet registry without hooks for readings, where no line has a chained name, a reading gives an
account of the kept lines (`config_file_accounted`).  It fails in one case only: a line gives to a
variable that is expanded a value which starts with a tilde and a name that the system refuses to
look up (`NullHome`).  The lines before such a line are accounted for, and the others are lost
(`null_home_ends_reading`).
-/

namespace ConfigVars

open ConfigVars.Text Run

/-! ### Values that cannot be expanded -/

/-- Of the home of a user, only the system may fail to tell: where the name holds a null
character. -/
theorem Environment.home?_error_iff {e : Environment} {user : List Char} {f : Failure}
    (hname : ∀ c ∈ user, c ≠ '/') :
    e.home? (some (String.ofList user)) = .error f ↔
      (∃ vars, e = .process vars) ∧ '\x00' ∈ user ∧ f = .unusable "embedded null byte" := by
  unfold home?
  cases user with
  | nil =>
    have hnone : nonEmpty? (some (String.ofList [])) = none := by simp [nonEmpty?]
    rw [hnone]
    cases e with
    | own vars homes => simp
    | process vars => cases hown : nonEmpty? ((process vars).get? "HOME") <;> simp [systemHome?]
  | cons c user =>
    have hsome : nonEmpty? (some (String.ofList (c :: user))) =
        some (String.ofList (c :: user)) := by
      simp [nonEmpty?]
    have hwhole : (String.ofList (c :: user)).toList.takeWhile (· ≠ '/') = c :: user := by
      rw [String.toList_ofList, List.takeWhile_eq_self_iff]
      exact fun c hc => decide_eq_true (hname c hc)
    rw [hsome]
    cases e with
    | own vars homes => simp
    | process vars =>
      dsimp only
      rw [systemHome?, hwhole]
      by_cases hnull : '\x00' ∈ c :: user
      · simp [hnull, eq_comm]
      · simp [hnull]

/-- A text whose start cannot be expanded: a tilde, and behind it a name with a null character,
which the system refuses to look up. -/
def NullHome (e : Environment) (cs : List Char) : Prop :=
  ∃ vars rest, e = .process vars ∧ cs = '~' :: rest ∧ '\x00' ∈ rest.takeWhile (· ≠ '/')

/-- **A start is expanded unless it is a name that the system refuses.** -/
theorem expandHome_error_iff {e : Environment} {cs : List Char} {f : Failure} :
    expandHome e cs = .error f ↔ NullHome e cs ∧ f = .unusable "embedded null byte" := by
  unfold expandHome
  split
  · rename_i rest
    have hname : ∀ c ∈ rest.takeWhile (· ≠ '/'), c ≠ '/' := fun c hc => by
      simpa using List.mem_takeWhile_imp hc
    dsimp only
    constructor
    · intro h
      cases hhome : e.home? (some (String.ofList (rest.takeWhile (· ≠ '/')))) with
      | error f' =>
        rw [hhome] at h
        cases h
        obtain ⟨⟨vars, he⟩, hnull, hf⟩ := (Environment.home?_error_iff hname).mp hhome
        exact ⟨⟨vars, rest, he, rfl, hnull⟩, hf⟩
      | ok home =>
        rw [hhome] at h
        cases h
    · rintro ⟨⟨vars, rest', he, hrest, hnull⟩, hf⟩
      cases hrest
      rw [(Environment.home?_error_iff hname).mpr ⟨⟨vars, he⟩, hnull, hf⟩]
      rfl
  · rename_i hne
    refine ⟨nofun, ?_⟩
    rintro ⟨⟨vars, rest, -, rfl, -⟩, -⟩
    exact absurd rfl (hne rest)

/-- The value of a line fails to be told only where its start is to be expanded and cannot be. -/
theorem lineValue_error_iff {r : Registry} {spec : VariableSpec} {value : Option (List Char)}
    {f : Failure} :
    lineValue r spec value = .error f ↔
      (∃ cs, value = some cs ∧ spec.expand = true ∧ NullHome r.environment cs) ∧
        f = .unusable "embedded null byte" := by
  cases value with
  | none => simp [lineValue]
  | some cs =>
    rw [lineValue]
    cases spec.expand with
    | false => simp [Except.map]
    | true =>
      rw [if_pos rfl, expand, String.toList_ofList]
      cases hhome : expandHome r.environment cs with
      | error f' =>
        have hiff := expandHome_error_iff.mp hhome
        simp [Except.map, hiff, eq_comm]
      | ok home =>
        have hnot : ¬ NullHome r.environment cs := fun hnull => by
          rw [expandHome_error_iff.mpr ⟨hnull, rfl⟩] at hhome
          cases hhome
        simp [Except.map, hnot]

/-! ### Lines and what they ask -/

namespace LogicalLine

/-- The text of a line without the blanks at its ends. -/
def trimmed (line : LogicalLine) : List Char := trimWhile isBlank line.text

/-- Whether a line is neither blank nor a comment. -/
def kept (line : LogicalLine) : Bool := !isIgnored line.trimmed

end LogicalLine

/-- What is trimmed does not start with a blank. -/
theorem trimWhile_head {p : Char → Bool} {cs : List Char} {c : Char}
    (h : (trimWhile p cs).head? = some c) : p c = false := by
  -- trimming at the end leaves a prefix of what trimming at the front has left
  have hprefix : trimWhile p cs <+: cs.dropWhile p := List.rdropWhile_prefix p _
  have hhead : (cs.dropWhile p).head? = some c := by
    obtain ⟨rest, hrest⟩ := hprefix
    rw [← hrest, List.head?_append, h]
    rfl
  exact head?_dropWhile p cs c hhead

/-- A trimmed text has no name exactly where it is empty or starts with an equals sign. -/
theorem ofLine_eq_none_iff {cs : List Char} (hne : trimWhile isBlank cs ≠ []) :
    Assignment.ofLine (trimWhile isBlank cs) = none ↔
      (trimWhile isBlank cs).head? = some '=' := by
  cases htext : trimWhile isBlank cs with
  | nil => exact absurd htext hne
  | cons c rest =>
    have hblank : isBlank c = false := trimWhile_head (by rw [htext]; rfl)
    by_cases hc : c = '='
    · simp [Assignment.ofLine, Assignment.isNameChar, hc]
    · simp [Assignment.ofLine, Assignment.isNameChar, hc, hblank]

namespace LogicalLine

variable {line : LogicalLine} {a : Assignment}

theorem trimmed_ne_nil (h : isIgnored line.trimmed = false) : line.trimmed ≠ [] := by
  intro hnil
  rw [hnil] at h
  cases h

/-- **A kept line starts with an equals sign, or is an assignment.** -/
theorem kept_cases (h : line.kept = true) :
    (line.trimmed.head? = some '=' ∧ Assignment.ofLine line.trimmed = none) ∨
      ∃ a, line.Assigns a := by
  rw [kept, Bool.not_eq_true'] at h
  cases ha : Assignment.ofLine line.trimmed with
  | none => exact .inl ⟨(ofLine_eq_none_iff (trimmed_ne_nil h)).mp ha, rfl⟩
  | some a => exact .inr ⟨a, h, ha⟩

theorem Assigns.head_ne (h : line.Assigns a) : line.trimmed.head? ≠ some '=' := by
  intro hhead
  have hnone := (ofLine_eq_none_iff (trimmed_ne_nil h.1)).mpr hhead
  rw [h.2] at hnone
  cases hnone

theorem Assigns.unique {b : Assignment} (h : line.Assigns a) (h' : line.Assigns b) : a = b :=
  Option.some.inj (h.2.symm.trans h'.2)

/-- A line is one for a variable, with a value or none. -/
def IsFor (r : Registry) (line : LogicalLine) (canonical : String) (spec : VariableSpec)
    (value : Option (List Char)) : Prop :=
  ∃ a, line.Assigns a ∧ r.find (String.ofList a.name) = .ok (canonical, spec) ∧ a.value = value

/-- The name of a line is that of no variable. -/
def IsUnknown (r : Registry) (line : LogicalLine) (name : String) : Prop :=
  ∃ a, line.Assigns a ∧ r.isDefined (String.ofList a.name) = false ∧
    r.resolve (String.ofList a.name) = name

/-- What a line asks of a registry. -/
inductive Asks (source : String) (r : Registry) (line : LogicalLine) : Directive → Prop where
  /-- The line has no name. -/
  | unsplit (hstart : line.trimmed.head? = some '=') :
      Asks source r line (.refuse (.reading (.unsplit "parse error") (line.place source)))
  | unknown {name : String} (hline : line.IsUnknown r name) :
      Asks source r line (.refuse (.reading (.undefinedVariable name) (line.place source)))
  /-- The variable needs a value, and there is none. -/
  | bare {canonical : String} {spec : VariableSpec} (hline : line.IsFor r canonical spec none)
      (hrequired : spec.argumentRequired = true) :
      Asks source r line (.reset canonical spec.default)
  | valued {canonical : String} {spec : VariableSpec} {value : Option (List Char)} {v : Value}
      (hline : line.IsFor r canonical spec value)
      (hvalue : lineValue r spec value = .ok (some v)) :
      Asks source r line (.store canonical v (line.place source))

/-- The value of a line is to be expanded and cannot be. -/
def Breaks (r : Registry) (line : LogicalLine) : Prop :=
  ∃ canonical spec cs, line.IsFor r canonical spec (some cs) ∧ spec.expand = true ∧
    NullHome r.environment cs

/-- A line may be read with one look at its name. -/
def IsDirect (r : Registry) (line : LogicalLine) : Prop :=
  ∀ a, line.Assigns a → ¬ r.IsChained (String.ofList a.name)

variable {r r' start : Registry} {source : String} {d : Directive}

theorem IsFor.revalued {canonical : String} {spec : VariableSpec} {value : Option (List Char)}
    (h : line.IsFor r canonical spec value) (hr : start.Revalued r) :
    line.IsFor start canonical spec value := by
  obtain ⟨a, hline, hfind, hvalue⟩ := h
  exact ⟨a, hline, (hr.find_eq _).symm.trans hfind, hvalue⟩

theorem IsUnknown.revalued {name : String} (h : line.IsUnknown r name) (hr : start.Revalued r) :
    line.IsUnknown start name := by
  obtain ⟨a, hline, hundef, hname⟩ := h
  exact ⟨a, hline, (hr.isDefined_eq _).symm.trans hundef, (hr.resolve_eq _).symm.trans hname⟩

theorem Breaks.revalued (h : line.Breaks r) (hr : start.Revalued r) : line.Breaks start := by
  obtain ⟨canonical, spec, cs, hline, hexpand, hnull⟩ := h
  refine ⟨canonical, spec, cs, hline.revalued hr, hexpand, ?_⟩
  obtain ⟨values, rfl⟩ := hr
  exact hnull

theorem IsDirect.revalued (h : line.IsDirect start) (hr : start.Revalued r) :
    line.IsDirect r := by
  obtain ⟨values, rfl⟩ := hr
  exact h

/-- A line is for one variable at most, with one value at most. -/
theorem IsFor.unique {canonical canonical' : String} {spec spec' : VariableSpec}
    {value value' : Option (List Char)} (h : line.IsFor r canonical spec value)
    (h' : line.IsFor r canonical' spec' value') :
    canonical = canonical' ∧ spec = spec' ∧ value = value' := by
  obtain ⟨a, hline, hfind, rfl⟩ := h
  obtain ⟨b, hline', hfind', rfl⟩ := h'
  obtain rfl := hline.unique hline'
  obtain ⟨rfl, rfl⟩ := Prod.mk.inj (Except.ok.inj (hfind.symm.trans hfind'))
  exact ⟨rfl, rfl, rfl⟩

theorem IsFor.not_isUnknown {canonical name : String} {spec : VariableSpec}
    {value : Option (List Char)} (h : line.IsFor r canonical spec value) :
    ¬ line.IsUnknown r name := by
  rintro ⟨b, hline', hundef, -⟩
  obtain ⟨a, hline, hfind, -⟩ := h
  obtain rfl := hline.unique hline'
  obtain ⟨rfl, hspec⟩ := Registry.specs_get?_of_find hfind
  rw [Registry.isDefined, Table.contains, hspec] at hundef
  cases hundef

/-- What a line asks is about the variables of the registry. -/
theorem Asks.fits (h : line.Asks source r d) : d.Fits r := by
  cases h with
  | unsplit _ => trivial
  | unknown _ => trivial
  | bare hline _ =>
    obtain ⟨a, -, hfind, -⟩ := hline
    exact ⟨_, (Registry.specs_get?_of_find hfind).2, rfl⟩
  | valued hline _ =>
    obtain ⟨a, -, hfind, -⟩ := hline
    exact Option.isSome_of_eq_some (Registry.specs_get?_of_find hfind).2

/-- A line that asks something does not break the reading. -/
theorem Asks.not_breaks (h : line.Asks source r d) : ¬ line.Breaks r := by
  rintro ⟨canonical, spec, cs, hfor, hexpand, hnull⟩
  cases h with
  | unsplit hstart =>
    obtain ⟨a, hline, -⟩ := hfor
    exact hline.head_ne hstart
  | unknown hunknown => exact hfor.not_isUnknown hunknown
  | bare hline _ =>
    obtain ⟨-, -, hvalue⟩ := hfor.unique hline
    cases hvalue
  | valued hline hvalue =>
    obtain ⟨-, rfl, rfl⟩ := hfor.unique hline
    rw [lineValue_error_iff.mpr ⟨⟨cs, rfl, hexpand, hnull⟩, rfl⟩] at hvalue
    cases hvalue

end LogicalLine

/-! ### The reading -/

section Reading

variable {call : Caller} {w w' : World} {line : LogicalLine} {source : String}

/-- The failure that a line leads to whose value cannot be expanded. -/
def nullFailure : Failure := .unusable "embedded null byte"

theorem applyLine_of_ignored {hook : Option Callable} (hkept : line.kept = false) (o : Outcome) :
    (applyLine call hook source o line).ends w = (.ok o, w) := by
  have hignored : isIgnored (trimWhile isBlank line.text) = true := by
    simpa [LogicalLine.kept, LogicalLine.trimmed] using hkept
  unfold applyLine
  simp only [hignored, if_true]
  rfl

/-- A kept line without a name is a problem. -/
theorem applyLine_of_unsplit (hkept : line.kept = true)
    (hnone : Assignment.ofLine line.trimmed = none) (o : Outcome) :
    (applyLine call none source o line).ends w =
      (note call o (.reading (.unsplit "parse error") (line.place source))).ends w := by
  have hused : isIgnored (trimWhile isBlank line.text) = false := by
    simpa [LogicalLine.kept, LogicalLine.trimmed] using hkept
  unfold applyLine
  simp only [hused, handled, Bool.false_eq_true, if_false, pure_bind]
  rw [applyText, show Assignment.ofLine (trimWhile isBlank line.text) = none from hnone]
  rfl

/-- A line for a variable resets it or stores a value, unless it breaks the reading. -/
theorem applyLine_of_isFor (hr : w.registry.Sound) {a : Assignment} (hline : line.Assigns a)
    (hdef : w.registry.isDefined (String.ofList a.name) = true) (o : Outcome) :
    (line.Breaks w.registry ∧
        (applyLine call none source o line).ends w = (.error nullFailure, w)) ∨
      ∃ d, line.Asks source w.registry d ∧
        (applyLine call none source o line).ends w = (d.run call o).ends w := by
  rw [applyLine_ends hline, if_pos (hr.isDefined_resolve.mpr (.inl hdef)), applyValue_ends,
    hr.find_resolve hdef]
  obtain ⟨spec, hspec⟩ := Option.isSome_iff_exists.mp hdef
  have hfind : w.registry.find (String.ofList a.name) =
      .ok (w.registry.resolve (String.ofList a.name), spec) := by
    rw [Registry.find, hspec]
  have hfor : line.IsFor w.registry _ spec a.value := ⟨a, hline, hfind, rfl⟩
  rw [hfind]
  dsimp only
  cases hvalue : lineValue w.registry spec a.value with
  | error f =>
    obtain ⟨⟨cs, hcs, hexpand, hnull⟩, rfl⟩ := lineValue_error_iff.mp hvalue
    exact .inl ⟨⟨_, spec, cs, hcs ▸ hfor, hexpand, hnull⟩, rfl⟩
  | ok v? =>
    refine .inr ?_
    cases v? with
    | some v => exact ⟨_, .valued hfor hvalue, rfl⟩
    | none =>
      cases hnone : a.value with
      | none =>
        rw [hnone] at hfor hvalue
        refine ⟨_, .bare hfor ?_, rfl⟩
        cases hrequired : spec.argumentRequired with
        | true => rfl
        | false => simp [lineValue, hrequired] at hvalue
      | some cs =>
        rw [hnone, lineValue] at hvalue
        split at hvalue
        · cases hcs : expand w.registry w.registry.environment (.text (String.ofList cs)) <;>
            simp [hcs, Except.map] at hvalue
        · simp [Except.map] at hvalue

/-- **A kept line does what it asks**, or breaks the reading. -/
theorem applyLine_asks (call : Caller) (source : String) (hr : w.registry.Sound)
    (hkept : line.kept = true) (hdirect : line.IsDirect w.registry) (o : Outcome) :
    (line.Breaks w.registry ∧
        (applyLine call none source o line).ends w = (.error nullFailure, w)) ∨
      ∃ d, line.Asks source w.registry d ∧
        (applyLine call none source o line).ends w = (d.run call o).ends w := by
  rcases LogicalLine.kept_cases hkept with ⟨hstart, hnone⟩ | ⟨a, hline⟩
  · exact .inr ⟨_, .unsplit hstart, applyLine_of_unsplit hkept hnone o⟩
  · by_cases hdef : w.registry.isDefined (String.ofList a.name) = true
    · exact applyLine_of_isFor hr hline hdef o
    · have hundef : ¬ w.registry.isDefined (w.registry.resolve (String.ofList a.name)) = true := by
        rw [hr.isDefined_resolve]
        rintro (hdef' | hchain)
        · exact hdef hdef'
        · exact hdirect a hline hchain
      refine .inr ⟨_, .unknown ⟨a, hline, Bool.not_eq_true _ ▸ hdef, rfl⟩, ?_⟩
      rw [applyLine_ends hline, if_neg hundef]
      rfl

/-- **Lines are accounted for up to one that breaks the reading.** -/
theorem applyLines_account (hquiet : w.registry.Quiet call) (hr : w.registry.Sound)
    {lines : List LogicalLine} (hdirect : ∀ line ∈ lines, line.IsDirect w.registry)
    (o : Outcome) :
    ∃ entries left result w',
      (applyLines call none source o lines).ends w = (result, w') ∧
      lines.filter LogicalLine.kept = entries.map Prod.fst ++ left ∧
      Account call (fun r line => line.Asks source r) w entries w' ∧
      ((left = [] ∧ result = .ok (o.tally (entries.map Prod.snd))) ∨
        ∃ line rest, left = line :: rest ∧ line.Breaks w.registry ∧
          result = .error nullFailure) := by
  induction lines generalizing w o with
  | nil => exact ⟨[], [], _, w, rfl, rfl, .refl w, .inl ⟨rfl, rfl⟩⟩
  | cons line rest ih =>
    have hrest : ∀ line ∈ rest, line.IsDirect w.registry := fun line hmem =>
      hdirect line (List.mem_cons_of_mem _ hmem)
    rw [applyLines]
    cases hkept : line.kept with
    | false =>
      rw [ends_bind, applyLine_of_ignored hkept, List.filter_cons_of_neg (by simp [hkept])]
      exact ih hquiet hr hrest o
    | true =>
      rw [List.filter_cons_of_pos hkept]
      rcases applyLine_asks call source hr hkept (hdirect line List.mem_cons_self) o with
        ⟨hbreaks, hends⟩ | ⟨d, hasks, hends⟩
      · refine ⟨[], line :: rest.filter LogicalLine.kept, _, w, ?_, rfl, .refl w,
          .inr ⟨line, _, rfl, hbreaks, rfl⟩⟩
        rw [ends_bind, hends]
      · obtain ⟨result, w₁, hrun, hdone⟩ := d.run_done hquiet hr hasks.fits o
        have hsame := hdone.revalued
        obtain ⟨entries, left, result', w', hlines, hsplit, haccount, hresult⟩ :=
          ih (hquiet.revalued hsame) (hdone.sound hr hasks.fits)
            (fun line hmem => (hrest line hmem).revalued hsame) (o.adding result)
        refine ⟨(line, result) :: entries, left, result', w', ?_, by rw [hsplit]; rfl,
          .more hasks hdone haccount, ?_⟩
        · rw [ends_bind, hends, hrun]
          exact hlines
        · rcases hresult with hall | ⟨line', rest', hleft, hbreaks, hfailed⟩
          · exact .inl hall
          · exact .inr ⟨line', rest', hleft, hbreaks.revalued hsame, hfailed⟩

/-- A source is read by applying what it reads. -/
theorem readSource_reads (call : Caller) (hfile : w.registry.settings.fileParse = none)
    {s : Source} {reading : Reading} (hread : s.read w.files = .ok reading) :
    (readSource call s).ends w =
      Run.ends (do
        let o ← applyReading call w.registry.settings.lineParse s.name reading
        detail ("Read " ++ s.name ++ ": " ++ toString o.applied ++ " variable(s) set, " ++
          toString o.problems.length ++ " error(s)")
        return o) w := by
  rw [readSource, ends_bind_registry]
  dsimp only
  rw [hfile]
  dsimp only
  rw [ends_bind]
  have hget : (MonadState.get : Run World).ends w = (.ok w, w) := rfl
  rw [hget]
  dsimp only
  rw [hread]

/-- A source whose lines do not break off is read by applying its logical lines. -/
theorem readSource_ends (call : Caller) (hfile : w.registry.settings.fileParse = none)
    (hhook : w.registry.settings.lineParse = none) {s : Source} {lines : List String}
    (hread : s.read w.files = .ok { lines }) :
    (readSource call s).ends w =
      Run.ends (do
        let o ← applyLines call none s.name (.fresh s.name)
          (logicalLines (lines.map String.toList))
        detail ("Read " ++ s.name ++ ": " ++ toString o.applied ++ " variable(s) set, " ++
          toString o.problems.length ++ " error(s)")
        return o) w := by
  rw [readSource_reads call hfile hread, hhook]
  rfl

/-- The assignment of a line that counts: its variable takes the value that the line gives, or the
default where it gives none. -/
def LogicalLine.Gives (r : Registry) (line : LogicalLine) (a : String × Value) : Prop :=
  ∃ spec value r', line.IsFor r a.1 spec value ∧ r.Revalued r' ∧
    (lineValue r' spec value).map (fun v? => (v?.getD spec.default).toStored) = .ok a.2

end Reading

/-! ### Sessions that read lines -/

/-- Whether a program has an environment of its own. -/
def Environment.isOwn : Environment → Bool
  | .own _ _ => true
  | .process _ => false

/-- Without aliases, every line is read with one look at its name. -/
theorem LogicalLine.isDirect_of_no_aliases {r : Registry} (h : r.aliases.entries = [])
    (line : LogicalLine) : line.IsDirect r := by
  rintro a - ⟨target, halias, -⟩
  have hmem := Table.mem_entries_of_get? halias
  rw [h] at hmem
  cases hmem

end ConfigVars
