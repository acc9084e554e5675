import ConfigVars.Proofs.FlagAccount
import ConfigVars.Proofs.LineAccount

/-!
# A line and a flag that say the same

A variable that needs a value takes it from a line of a file or from behind a flag.  The line is put
together, trimmed and split; the flag and its value are taken from the front of the arguments.  What
comes out is the same: a line `name = value` (`assignmentLine`) is one for the variable that the name
stands for, with the very value that was written (`assignmentLine_assigns`), and so it comes to the
same assignment, or to the same rejection, as a flag of that variable with that value
(`line_and_flag_agree`).

A name has at least one character here.  A variable may have the empty name, and flags too, but a
line that starts with the equals sign has no name (`nameless_line_disagrees`).
-/

namespace ConfigVars

open ConfigVars.Text Run

/-! ### The text of an assignment -/

/-- A name that a line may start with. -/
structure IsLineName (name : List Char) : Prop where
  ne_nil : name ≠ []
  unbroken : ∀ c ∈ name, Assignment.isNameChar c = true
  no_comment : name.head? ≠ some '#'

/-- A value that stays as it is at the end of a line. -/
structure IsLineValue (value : List Char) : Prop where
  head_unblank : ∀ c, value.head? = some c → isBlank c = false
  last_unblank : ∀ c, value.getLast? = some c → isBlank c = false
  last_closed : value.getLast? ≠ some '\\'

/-- The line that gives a value to a name. -/
def assignmentLine (name value : List Char) : List Char := name ++ [' ', '=', ' '] ++ value

section AssignmentLine

variable {name value line : List Char} {c : Char}

theorem isBlank_of_isNameChar (h : Assignment.isNameChar c = true) : isBlank c = false := by
  rw [Assignment.isNameChar, Bool.and_eq_true, Bool.not_eq_true'] at h
  exact h.1

/-- A line that ends in no backslash and in no end of a line is a logical line by itself. -/
theorem logicalLines_single (hlast : line.getLast? = some c) (hreturn : c ≠ '\r')
    (hfeed : c ≠ '\n') (hclosed : c ≠ '\\') : logicalLines [line] = [⟨1, line⟩] := by
  obtain ⟨before, rfl⟩ := List.getLast?_eq_some_iff.mp hlast
  have hwhole : withoutEnd (before ++ [c]) = before ++ [c] := by
    simp [withoutEnd, hreturn, hfeed]
  have hnone : trailingBackslashes (before ++ [c]) = 0 := by
    simp [trailingBackslashes, hclosed]
  have hstops : goesOn (before ++ [c]) = false := by
    simp [goesOn, hnone]
  simp [logicalLines, splitLogical, logicalFrom, hwhole, hstops, contribution, hnone]

theorem assignmentLine_last (name : List Char) (hvalue : IsLineValue value) :
    ∃ c, (assignmentLine name value).getLast? = some c ∧ c ≠ '\r' ∧ c ≠ '\n' ∧ c ≠ '\\' := by
  rcases List.eq_nil_or_concat value with rfl | ⟨before, c, rfl⟩
  · exact ⟨' ', by simp [assignmentLine], by decide, by decide, by decide⟩
  · have hunblank : isBlank c = false := hvalue.last_unblank c (by simp)
    refine ⟨c, by simp [assignmentLine, ← List.append_assoc], ?_, ?_, ?_⟩
    · rintro rfl
      exact absurd hunblank (by decide)
    · rintro rfl
      exact absurd hunblank (by decide)
    · rintro rfl
      exact hvalue.last_closed (by simp)

/-- A line loses nothing by trimming but the blank behind the equals sign, where no value follows. -/
theorem trimWhile_assignmentLine (hname : IsLineName name) (hvalue : IsLineValue value) :
    trimWhile isBlank (assignmentLine name value) =
      name ++ ' ' :: '=' :: (if value = [] then [] else ' ' :: value) := by
  have hfront : (assignmentLine name value).dropWhile isBlank = assignmentLine name value := by
    obtain ⟨c, rest, rfl⟩ := List.exists_cons_of_ne_nil hname.ne_nil
    have hunblank := isBlank_of_isNameChar (hname.unbroken c List.mem_cons_self)
    simp [assignmentLine, hunblank]
  rw [trimWhile, hfront, dropWhileEnd]
  rcases List.eq_nil_or_concat value with rfl | ⟨before, c, rfl⟩
  · have hspace : isBlank ' ' = true := by decide
    have hequals : isBlank '=' = false := by decide
    simp [assignmentLine, hspace, hequals]
  · have hunblank : isBlank c = false := hvalue.last_unblank c (by simp)
    simp [assignmentLine, hunblank]

/-- Behind the name of a line, the value is found as it was written. -/
theorem valueOf_assignmentLine (hvalue : IsLineValue value) :
    Assignment.valueOf (' ' :: '=' :: (if value = [] then [] else ' ' :: value)) = some value := by
  have hspace : isBlank ' ' = true := by decide
  have hequals : isBlank '=' = false := by decide
  cases value with
  | nil => simp [Assignment.valueOf, hspace, hequals]
  | cons c rest =>
    have hunblank : isBlank c = false := hvalue.head_unblank c rfl
    simp [Assignment.valueOf, hspace, hequals, hunblank]

/-- **The line of a name and a value is the assignment of that value to that name.** -/
theorem assignmentLine_assigns (hname : IsLineName name) (hvalue : IsLineValue value) :
    LogicalLine.Assigns ⟨1, assignmentLine name value⟩ ⟨name, some value⟩ := by
  have hspace : Assignment.isNameChar ' ' = false := by decide
  obtain ⟨c, rest, hcons⟩ := List.exists_cons_of_ne_nil hname.ne_nil
  have hused : c ≠ '#' := fun hc => hname.no_comment (by rw [hcons, hc]; rfl)
  rw [LogicalLine.Assigns, trimWhile_assignmentLine hname hvalue]
  constructor
  · simp [isIgnored, hcons, hused]
  · rw [Assignment.ofLine, List.takeWhile_append_of_pos hname.unbroken,
      List.dropWhile_append_of_pos hname.unbroken, List.takeWhile_cons_of_neg (by simp [hspace]),
      List.dropWhile_cons_of_neg (by simp [hspace]), valueOf_assignmentLine hvalue]
    simp [hcons]

end AssignmentLine

/-! ### The two readings -/

/-- Settings without hooks for readings. -/
theorem Settings.unhooked {s : Settings} (h : ∀ hook, ¬ s.Reads hook) :
    s.fileParse = none ∧ s.lineParse = none ∧ s.cmdParse = none ∧ s.argParse = none :=
  ⟨Option.eq_none_iff_forall_ne_some.mpr fun hook hs => h hook (.inl hs),
    Option.eq_none_iff_forall_ne_some.mpr fun hook hs => h hook (.inr (.inl hs)),
    Option.eq_none_iff_forall_ne_some.mpr fun hook hs => h hook (.inr (.inr (.inl hs))),
    Option.eq_none_iff_forall_ne_some.mpr fun hook hs => h hook (.inr (.inr (.inr hs)))⟩

section Readings

variable {call : Caller} {w : World} {name canonical token value : String} {spec : VariableSpec}

theorem applyLines_single (hook : Option Callable) (source : String) (o : Outcome)
    (line : LogicalLine) :
    applyLines call hook source o [line] = applyLine call hook source o line :=
  bind_pure _

/-- A line for a variable whose values are not expanded stores the value that was written. -/
theorem applyLines_assignmentLine (hr : w.registry.Sound) (hname : IsLineName name.toList)
    (hvalue : IsLineValue value.toList) (hfind : w.registry.find name = .ok (canonical, spec))
    (hexpand : spec.expand = false) (source : String) (o : Outcome) :
    (applyLines call none source o
        (logicalLines [assignmentLine name.toList value.toList])).ends w =
      (store call o canonical (.text value) { source := some source, line := some 1 }).ends w := by
  obtain ⟨c, hlast, hreturn, hfeed, hclosed⟩ := assignmentLine_last name.toList hvalue
  obtain ⟨hcanonical, hspec⟩ := Registry.specs_get?_of_find hfind
  have hdef : w.registry.specs.contains canonical = true := Option.isSome_of_eq_some hspec
  -- the canonical name stands for itself, so the second look at it finds the same variable
  have hself := hr.resolve_of_contains hdef
  have hdefined : w.registry.isDefined canonical = true := by
    rw [Registry.isDefined, hself]
    exact hdef
  rw [logicalLines_single hlast hreturn hfeed hclosed, applyLines_single,
    applyLine_ends (assignmentLine_assigns hname hvalue)]
  rw [String.ofList_toList, ← hcanonical, if_pos hdefined, applyValue_ends, hr.find_of_get? hspec]
  dsimp only
  rw [lineValue, if_neg (by simp [hexpand]), String.ofList_toList]
  rfl

/-- A flag that needs a value stores the one behind it. -/
theorem scan_valued (call : Caller) {settings : Settings} (harg : settings.argParse = none)
    (hr : w.registry.Sound) (hflag : isFlag token = true) (hend : token ≠ settings.endOfArgs)
    (htrigger : w.registry.trigger? token = some canonical)
    (hspec : w.registry.specs.get? canonical = some spec)
    (hrequired : spec.argumentRequired = true) (hplain : isFlag value = false) (fuel : Nat)
    (o : Outcome) :
    (scan call settings (fuel + 2) [.text token, .text value] o).ends w =
      Run.ends (do
        let o ← store call o canonical (.text value) { token := some token }
        return ([], o)) w := by
  have hfound : w.registry.spec canonical = .ok spec := by
    rw [Registry.spec, hr.find_of_get? hspec]
    rfl
  have htake : takeArgument [.text value] = (some value, []) := by
    rw [takeArgument, if_neg (by simp [hplain])]
  have happly : ∀ o, (applyFlag call o token canonical [.text value]).ends w =
      Run.ends (do return ([], ← store call o canonical (.text value) { token := some token })) w := by
    intro o
    rw [applyFlag, ends_bind_registry, hfound, orProblem_ok_bind]
    dsimp only
    rw [if_pos hrequired, htake]
  rw [scan, hflag, if_neg (by simp), if_neg hend, ends_bind_registry, htrigger]
  dsimp only
  rw [harg]
  dsimp only
  rw [ends_bind, happly, ends_bind]
  rcases (store call o canonical (.text value) { token := some token }).ends w with ⟨_ | _, _⟩ <;>
    rfl

/-- Storing a value comes to the same from everywhere: one check decides. -/
theorem store_same (hquiet : w.registry.Quiet call) (hr : w.registry.Sound)
    (hdef : w.registry.specs.contains canonical = true) (v : Value) (o o' : Outcome)
    (place place' : Place) :
    (∃ w', (store call o canonical v place).ends w = (.ok o.counted, w') ∧
        (store call o' canonical v place').ends w = (.ok o'.counted, w') ∧
        w'.registry =
          { w.registry with values := w.registry.values.put canonical v.toStored }) ∨
      ∃ w₁ w₂,
        (store call o canonical v place).ends w =
            (.ok (o.withProblem (.reading (.rejected canonical v) place)), w₁) ∧
          (store call o' canonical v place').ends w =
            (.ok (o'.withProblem (.reading (.rejected canonical v) place')), w₂) ∧
          w₁.registry = w.registry ∧ w₂.registry = w.registry := by
  obtain ⟨result, w₁, hends, hdone⟩ := Directive.store_done hquiet hr hdef o v place
  obtain ⟨result', w₂, hends', hdone'⟩ := Directive.store_done hquiet hr hdef o' v place'
  -- both have checked the value in the same world, so the verdicts are one
  cases hdone with
  | accepted _ hcheck _ =>
    cases hdone' with
    | accepted _ hcheck' _ =>
      obtain rfl := (Prod.mk.inj (hcheck.symm.trans hcheck')).2
      exact .inl ⟨_, hends, hends', rfl⟩
    | rejected hcheck' _ _ _ => cases hcheck.symm.trans hcheck'
  | rejected hcheck _ _ hsame =>
    cases hdone' with
    | accepted _ hcheck' _ => cases hcheck.symm.trans hcheck'
    | rejected _ _ _ hsame' => exact .inr ⟨w₁, w₂, hends, hends', hsame, hsame'⟩

/-- **A line and a flag that say the same do the same.**  In a quiet registry without hooks for
readings, take a variable that needs a value and does not expand it, a name that stands for it, a
flag that triggers it, and a value that stays as it is at the end of a line and is no flag.  A
source with the one line `name = value` and the arguments that are the flag and the value both
succeed from the same world and leave the same registry: either the variable has the value, and each
counts one assignment and no problem, or nothing has changed, and each has one problem and counts
nothing, the rejection of that value for that variable. -/
theorem line_and_flag_agree (depth : Nat) (hw : Reachable (Callable.call depth) w)
    (hread : ∀ hook, ¬ w.registry.settings.Reads hook)
    (henv : w.registry.settings.cmdEnv = none)
    (hquiet : w.registry.Quiet (Callable.call depth)) (hname : IsLineName name.toList)
    (hfind : w.registry.find name = .ok (canonical, spec))
    (hrequired : spec.argumentRequired = true) (hexpand : spec.expand = false)
    (hflag : isFlag token = true) (hend : token ≠ w.registry.settings.endOfArgs)
    (htrigger : w.registry.trigger? token = some canonical) (hvalue : IsLineValue value.toList)
    (hplain : isFlag value = false) {s : Source}
    (hlines : s.read w.files = .ok { lines := [name ++ " = " ++ value] }) :
    let call := Callable.call depth
    let r := w.registry
    let rejected (place : Place) : Problem := .reading (.rejected canonical (.text value)) place
    ∃ o o' w₁ w₂, (readSource call s).ends w = (.ok o, w₁) ∧
      (readArguments call [.text token, .text value]).ends w = (.ok ([], o'), w₂) ∧
      w₁.registry = w₂.registry ∧ o.ok = true ∧ o'.ok = true ∧
      ((o.applied = 1 ∧ o'.applied = 1 ∧ o.problems = [] ∧ o'.problems = [] ∧
          w₁.registry = { r with values := r.values.put canonical (.text value) }) ∨
        (o.applied = 0 ∧ o'.applied = 0 ∧ w₁.registry = r ∧
          o.problems = [rejected { source := some s.name, line := some 1 }] ∧
          o'.problems = [rejected { token := some token }])) := by
  intro call r rejected
  have hr : r.Sound := hw.sound
  obtain ⟨hfile, hhook, hcmd, harg⟩ := Settings.unhooked hread
  have hspec := (Registry.specs_get?_of_find hfind).2
  -- the reading of the source
  have htext : (name ++ " = " ++ value).toList = assignmentLine name.toList value.toList := by
    simp [assignmentLine]
  have hsource := readSource_ends call hfile hhook hlines
  rw [List.map_singleton, htext, ends_bind,
    applyLines_assignmentLine hr hname hvalue hfind hexpand] at hsource
  -- the reading of the arguments
  have hargv : withDefaults r [.text token, .text value] = [.text token, .text value] := by
    rw [withDefaults, henv]
    rfl
  have hscan := scan_valued call harg hr hflag hend htrigger hspec hrequired hplain (patience + 1)
    (.fresh commandLineName)
  have hfuel : (withDefaults r [.text token, .text value]).length + 1 + patience =
      patience + 1 + 2 := by
    rw [hargv, List.length_cons, List.length_singleton]
    omega
  have harguments : ∀ {o w₁}, (store call (.fresh commandLineName) canonical (.text value)
      { token := some token }).ends w = (.ok o, w₁) →
      ∃ w', (readArguments call [.text token, .text value]).ends w = (.ok ([], o), w') ∧
        w'.registry = w₁.registry := by
    intro o w₁ hstore
    have hwhole : (scan call r.settings
        ((withDefaults r [.text token, .text value]).length + 1 + patience)
        (withDefaults r [.text token, .text value]) (.fresh commandLineName)).ends w =
        (.ok ([], o), w₁) := by
      rw [hfuel, hargv, hscan, ends_bind, hstore]
      rfl
    obtain ⟨w', hends, hsame, -⟩ := readArguments_ends hcmd hwhole
    exact ⟨w', hends, hsame⟩
  rcases store_same hquiet hr (Option.isSome_of_eq_some hspec) (.text value) (.fresh s.name)
      (.fresh commandLineName) { source := some s.name, line := some 1 }
      { token := some token } with
    ⟨w', hstore, hstore', hput⟩ | ⟨w₁, w₂, hstore, hstore', hsame₁, hsame₂⟩
  · obtain ⟨w₂, hends', hsame'⟩ := harguments hstore'
    rw [hstore] at hsource
    obtain ⟨w₁, hdetail, hsame⟩ := detail_ends _ w'
    dsimp only at hsource
    rw [ends_bind, hdetail] at hsource
    exact ⟨_, _, w₁, w₂, hsource, hends', hsame.trans hsame'.symm, rfl, rfl,
      .inl ⟨rfl, rfl, rfl, rfl, hsame.trans hput⟩⟩
  · obtain ⟨w₂', hends', hsame'⟩ := harguments hstore'
    rw [hstore] at hsource
    obtain ⟨w₁', hdetail, hsame⟩ := detail_ends _ w₁
    dsimp only at hsource
    rw [ends_bind, hdetail] at hsource
    have hleft : w₁'.registry = r := hsame.trans hsame₁
    exact ⟨_, _, w₁', w₂', hsource, hends', hleft.trans (hsame'.trans hsame₂).symm, rfl, rfl,
      .inr ⟨rfl, rfl, hleft, rfl, rfl⟩⟩

end Readings

/-! ### Sessions with a variable that needs a value -/

/-- A session whose variable needs a value and does not expand it, with the alias `l` and the flag
`-l`. -/
def valuedSession (name : String) : World :=
  (((Operation.define name
    [(.text "argument_required", .bool true), (.text "expand", .bool false),
      (.text "aliases", .text "l"), (.text "command_triggers", .text "-l")] []).run
    Caller.standard).ends (newSession [(.text "error", .callable .recorder)])).2

theorem valuedSession_reachable (name : String) :
    Reachable Caller.standard (valuedSession name) := (Reachable.start _ _ _ _).operation _

/-- Whether a name is found as that of a variable that needs a value and does not expand it. -/
def Registry.takesAsWritten (r : Registry) (name canonical : String) : Bool :=
  match r.find name with
  | .ok (found, spec) => found == canonical && spec.argumentRequired && !spec.expand
  | .error _ => false

theorem Registry.find_of_takesAsWritten {r : Registry} {name canonical : String}
    (h : r.takesAsWritten name canonical = true) :
    ∃ spec, r.find name = .ok (canonical, spec) ∧ spec.argumentRequired = true ∧
      spec.expand = false := by
  unfold takesAsWritten at h
  split at h
  · rename_i found spec hfind
    simp only [Bool.and_eq_true, beq_iff_eq, Bool.not_eq_true'] at h
    obtain ⟨⟨rfl, hrequired⟩, hexpand⟩ := h
    exact ⟨spec, hfind, hrequired, hexpand⟩
  · cases h

/-- Giving the variable `level` a value with signs that are special to lines and to expansion: by
its alias in a line, and by its flag in another letter case. -/
theorem level_line_and_flag_agree :
    let w := valuedSession "level"
    let value := "= #1 $HOME ~\\x"
    Reachable Caller.standard w ∧ (∀ hook, ¬ w.registry.settings.Reads hook) ∧
      w.registry.settings.cmdEnv = none ∧ w.registry.Quiet Caller.standard ∧
      IsLineName "L".toList ∧ isFlag "-L" = true ∧ "-L" ≠ w.registry.settings.endOfArgs ∧
      w.registry.trigger? "-L" = some "level" ∧ IsLineValue value.toList ∧ isFlag value = false ∧
      ∃ spec, w.registry.find "L" = .ok ("level", spec) ∧ spec.argumentRequired = true ∧
        spec.expand = false ∧ ∃ o o' w₁ w₂,
          (readSource Caller.standard (.lines ["L" ++ " = " ++ value])).ends w = (.ok o, w₁) ∧
          (readArguments Caller.standard [.text "-L", .text value]).ends w = (.ok ([], o'), w₂) ∧
          w₁.registry = w₂.registry ∧ o.applied = o'.applied := by
  intro w value
  have hw : Reachable Caller.standard w := valuedSession_reachable "level"
  have hread : ∀ hook, ¬ w.registry.settings.Reads hook :=
    not_reads_of_unhooked (by decide +kernel)
  have henv : w.registry.settings.cmdEnv = none := by decide +kernel
  have hplain : w.registry.Plain := by decide +kernel
  have hname : IsLineName "L".toList :=
    ⟨by decide, List.all_eq_true.mp (by decide), by decide⟩
  have hend : "-L" ≠ w.registry.settings.endOfArgs := by decide +kernel
  have htrigger : w.registry.trigger? "-L" = some "level" := by decide +kernel
  have hvalue : IsLineValue value.toList := by
    have hhead : value.toList.head? = some '=' := by decide +kernel
    have hlast : value.toList.getLast? = some 'x' := by decide +kernel
    refine ⟨fun c hc => ?_, fun c hc => ?_, by decide +kernel⟩
    · obtain rfl : '=' = c := Option.some.inj (hhead.symm.trans hc)
      decide
    · obtain rfl : 'x' = c := Option.some.inj (hlast.symm.trans hc)
      decide
  have htakes : w.registry.takesAsWritten "L" "level" = true := by decide +kernel
  obtain ⟨spec, hfind, hrequired, hexpand⟩ := Registry.find_of_takesAsWritten htakes
  obtain ⟨o, o', w₁, w₂, hends, hends', hsame, -, -, hcases⟩ :=
    line_and_flag_agree maxCallDepth hw hread henv (hplain.quiet _) hname hfind hrequired hexpand
      (by decide) hend htrigger hvalue (by decide) (s := .lines ["L" ++ " = " ++ value]) rfl
  refine ⟨hw, hread, henv, hplain.quiet _, hname, by decide, hend, htrigger, hvalue, by decide,
    spec, hfind, hrequired, hexpand, o, o', w₁, w₂, hends, hends', hsame, ?_⟩
  rcases hcases with ⟨hone, hone', -⟩ | ⟨hnone, hnone', -⟩
  · rw [hone, hone']
  · rw [hnone, hnone']

/-- The variable with the empty name is set by its flag, and not by a line that has nothing in front
of the equals sign. -/
theorem nameless_line_disagrees :
    let w := valuedSession ""
    Reachable Caller.standard w ∧ (∀ hook, ¬ w.registry.settings.Reads hook) ∧
      w.registry.settings.cmdEnv = none ∧ w.registry.Quiet Caller.standard ∧
      (∃ spec, w.registry.find "" = .ok ("", spec) ∧ spec.argumentRequired = true ∧
        spec.expand = false) ∧
      isFlag "-l" = true ∧ "-l" ≠ w.registry.settings.endOfArgs ∧
      w.registry.trigger? "-l" = some "" ∧ IsLineValue "v".toList ∧ isFlag "v" = false ∧
      ((readSource Caller.standard (.lines ["" ++ " = " ++ "v"])).ends w).2.registry.value? "" =
        none ∧
      ((readArguments Caller.standard [.text "-l", .text "v"]).ends w).2.registry.value? "" =
        some (.text "v") := by
  intro w
  have hplain : w.registry.Plain := by decide +kernel
  have hnone : (((readSource Caller.standard (.lines ["" ++ " = " ++ "v"])).ends
      w).2.registry.value? "").isNone = true := by decide +kernel
  exact ⟨valuedSession_reachable "", not_reads_of_unhooked (by decide +kernel),
    by decide +kernel, hplain.quiet _,
    Registry.find_of_takesAsWritten (by decide +kernel), by decide, by decide +kernel,
    by decide +kernel, ⟨by rintro c ⟨⟩; decide, by rintro c ⟨⟩; decide, by decide⟩, by decide,
    Option.isNone_iff_eq_none.mp hnone, Value.eq_text_of_any_same (by decide +kernel)⟩

end ConfigVars
