import ConfigVars.Proofs.Request
import ConfigVars.Proofs.Sink

/-!
# Sessions in two spellings

A registry that does not tell cases apart folds every name to small letters before it uses it.  So
two programs may ask for the same, one after the other, with names in different cases (`SameLower`):
the names of variables, aliases and what they are for, tokens that set variables, the names of
lines, and flags.  The two registries go on with the same tables, and the answers are the same up to
the spelling of names in them (`respelled_sessions_agree`).

Lines and flags are told by marks (`isMark`): the minus sign, the hash sign, the equals sign and
blanks.  Small letters keep these, and have no others, so what is a flag or the name of a line is
one in every spelling (`orthography_sameLower`).
-/

namespace ConfigVars

open ConfigVars.Text Run

namespace Text

/-! ### Marks -/

/-- The characters by which flags, comments and the ends of names are told. -/
def isMark (c : Char) : Bool := c = '-' || c = '#' || c = '=' || isBlank c

/-- The code points of the marks. -/
def marks : List Nat :=
  '-'.toNat :: '#'.toNat :: '='.toNat ::
    blankRanges.flatMap fun (first, last) => List.range' first (last + 1 - first)

theorem mem_marks_of_isMark {c : Char} (h : isMark c = true) : c.toNat ∈ marks := by
  simp only [isMark, Bool.or_eq_true, decide_eq_true_eq] at h
  rcases h with ((rfl | rfl) | rfl) | hblank
  · decide +kernel
  · decide +kernel
  · decide +kernel
  · obtain ⟨r, hr, hfirst, hlast⟩ := Ranges.exists_of_contains hblank
    have hc : c.toNat ∈ List.range' r.1 (r.2 + 1 - r.1) :=
      List.mem_range'_1.mpr ⟨hfirst, by omega⟩
    simp only [marks, List.mem_cons]
    exact .inr (.inr (.inr (List.mem_flatMap.mpr ⟨r, hr, hc⟩)))

theorem marks_and_capitals : bits marks &&& bits (lowerRuns.flatMap capitals) = 0 := by
  decide +kernel

theorem marks_and_smalls : bits marks &&& bits (lowerRuns.flatMap smalls) = 0 := by
  decide +kernel

/-- A letter that has another one as its lower case is no mark, and neither is that. -/
theorem lowerChar_of_isMark {c : Char} (h : isMark c = true ∨ isMark (lowerChar c) = true) :
    lowerChar c = c := by
  rcases lowerIn_eq_or_mem_smalls lowerRuns c.toNat with hsame | ⟨hcapital, hsmall⟩
  · rw [lowerChar, hsame, Char.ofNat_toNat]
  · rcases h with h | h
    · exact absurd hcapital (not_mem_of_bits marks_and_capitals (mem_marks_of_isMark h))
    · rw [← toNat_lowerChar_of_mem_smalls hsmall] at hsmall
      exact absurd hsmall (not_mem_of_bits marks_and_smalls (mem_marks_of_isMark h))

theorem lowerBetween_of_isMark {c : Char} (h : isMark c = true) (before after : List Char) :
    lowerBetween before c after = [c] :=
  IsSmall.lowerBetween (lowerChar_of_isMark (.inl h)) before after

/-- A mark in small letters was there before. -/
theorem eq_of_mem_lowerBetween {before after : List Char} {c x : Char} (hx : isMark x = true)
    (h : x ∈ lowerBetween before c after) : x = c := by
  unfold lowerBetween at h
  split at h
  · split at h <;> obtain rfl := List.mem_singleton.mp h <;> exact absurd hx (by decide +kernel)
  · split at h
    · simp only [List.mem_cons, List.not_mem_nil, or_false] at h
      rcases h with rfl | rfl <;> exact absurd hx (by decide +kernel)
    · obtain rfl := List.mem_singleton.mp h
      exact lowerChar_of_isMark (.inr hx)

theorem lowerBetween_ne_nil (before : List Char) (c : Char) (after : List Char) :
    lowerBetween before c after ≠ [] := by
  unfold lowerBetween
  repeat' split
  all_goals exact List.cons_ne_nil _ _

theorem mem_lowerAfter_iff {x : Char} (hx : isMark x = true) (before cs : List Char) :
    x ∈ lowerAfter before cs ↔ x ∈ cs := by
  induction cs generalizing before with
  | nil => rfl
  | cons c rest ih =>
    rw [lowerAfter, List.mem_append, List.mem_cons, ih]
    refine or_congr_left ⟨eq_of_mem_lowerBetween hx, ?_⟩
    rintro rfl
    rw [lowerBetween_of_isMark hx]
    exact List.mem_cons_self

theorem head?_lowerAfter_iff {x : Char} (hx : isMark x = true) (before cs : List Char) :
    (lowerAfter before cs).head? = some x ↔ cs.head? = some x := by
  cases cs with
  | nil => rfl
  | cons c rest =>
    rw [lowerAfter, List.head?_append_of_ne_nil _ (lowerBetween_ne_nil _ _ _), List.head?_cons]
    refine ⟨fun h => ?_, fun h => ?_⟩
    · rw [eq_of_mem_lowerBetween hx (List.mem_of_head? h)]
    · cases h
      rw [lowerBetween_of_isMark hx]
      rfl

theorem lowerAfter_eq_nil_iff (before cs : List Char) : lowerAfter before cs = [] ↔ cs = [] := by
  cases cs with
  | nil => exact ⟨id, fun _ => rfl⟩
  | cons c rest => simp [lowerAfter, lowerBetween_ne_nil]

end Text

/-! ### Spellings -/

/-- Two spellings of a name that differ in letter case only. -/
def SameLower (s s' : String) : Prop := lower s = lower s'

theorem SameLower.lowerAfter_eq {s s' : String} (h : SameLower s s') :
    lowerAfter [] s.toList = lowerAfter [] s'.toList := String.ofList_injective h

theorem isFlag_of_sameLower {s s' : String} (h : SameLower s s') : isFlag s' = isFlag s := by
  have hdash : isMark '-' = true := by decide
  rw [isFlag, isFlag, decide_eq_decide, ← head?_lowerAfter_iff hdash [] s.toList,
    ← head?_lowerAfter_iff hdash [] s'.toList, h.lowerAfter_eq]

/-- A name that a line may start with is one in every spelling. -/
theorem isLineName_of_sameLower {name name' : List Char}
    (h : SameLower (String.ofList name) (String.ofList name')) (hname : IsLineName name) :
    IsLineName name' := by
  have hlower := h.lowerAfter_eq
  rw [String.toList_ofList, String.toList_ofList] at hlower
  refine ⟨fun hnil => hname.ne_nil ?_, fun c hc => ?_, fun hhash => hname.no_comment ?_⟩
  · rw [← lowerAfter_eq_nil_iff [], hlower, lowerAfter_eq_nil_iff]
    exact hnil
  · by_contra hends
    have hmark : isMark c = true := by
      simp only [Assignment.isNameChar, Bool.and_eq_true, Bool.not_eq_true', decide_eq_true_eq,
        not_and, Decidable.not_not] at hends
      cases hblank : isBlank c with
      | true => simp [isMark, hblank]
      | false => simp [isMark, hends hblank]
    have hthere : c ∈ name := by
      rw [← mem_lowerAfter_iff hmark [], hlower, mem_lowerAfter_iff hmark]
      exact hc
    exact hends (hname.unbroken c hthere)
  · have hmark : isMark '#' = true := by decide
    rw [← head?_lowerAfter_iff hmark [], hlower, head?_lowerAfter_iff hmark]
    exact hhash

/-- **Spellings of one lower case are ways of writing one name.** -/
theorem orthography_sameLower : Orthography SameLower where
  refl _ := rfl
  dash h := by
    rw [SameLower, lower_dash, lower_dash, h]
  isFlag_eq := isFlag_of_sameLower
  lineName := isLineName_of_sameLower

/-! ### Two sessions -/

/-- Worlds with registries that differ in the spelling of names, and with the same settings. -/
structure Parallel (files files' : FileTree) (settings : Settings) (w w' : World) : Prop where
  files_eq : w.files = files ∧ w'.files = files'
  settings_eq : w.registry.settings = settings
  settings_eq' : w'.registry.settings = settings
  like : w.registry.Like SameLower w'.registry

variable {files files' : FileTree} {settings : Settings}

theorem Parallel.frame (hcase : settings.caseSensitive = false) :
    Frame SameLower files files' settings (Parallel files files' settings) where
  orthography := orthography_sameLower
  files_eq h := h.files_eq
  settings_eq h := h.settings_eq
  like h := h.like
  folds := by
    intro w w' h s s' hs
    rw [Registry.fold, Registry.fold, h.settings_eq, hcase]
    exact hs
  write h hlike hr hr' := ⟨h.files_eq, hr.trans h.settings_eq, hr'.trans h.settings_eq', hlike⟩
  left h _ := ⟨h.files_eq, h.settings_eq, h.settings_eq', h.like⟩
  right h _ := ⟨h.files_eq, h.settings_eq, h.settings_eq', h.like⟩

/-- **In two spellings, everything goes in lockstep** under an idle sink. -/
theorem Parallel.inStep (hcase : settings.caseSensitive = false) {depth : Nat}
    (hsink : settings.IdleSink (Callable.call depth)) (depth' : Nat) :
    InStep SameLower files files' settings (fun _ => False) (Parallel files files' settings)
      (Callable.call depth') := by
  refine .of_reports (frame hcase) (fun depth' p p' _ => ?_) depth'
  intro w w' h
  cases herror : settings.error with
  | none =>
    rw [report_logged _ p (h.settings_eq ▸ herror), report_logged _ p' (h.settings_eq' ▸ herror)]
    exact .answers rfl ⟨h.files_eq, h.settings_eq, h.settings_eq', h.like⟩
  | some sink =>
    have hfound : w.registry.settings.error = some sink := h.settings_eq ▸ herror
    have hfound' : w'.registry.settings.error = some sink := h.settings_eq' ▸ herror
    cases depth' with
    | zero =>
      rw [report_endless p hfound, report_endless p' hfound']
      exact .fails _ h
    | succ depth' =>
      have htakes := hsink.takesProblems herror
      rw [report_told htakes p hfound, report_told htakes p' hfound']
      exact .answers rfl ⟨by simpa using h.files_eq, by simpa using h.settings_eq,
        by simpa using h.settings_eq', by simpa using h.like⟩

/-- The worlds that two sessions come to from one world, where they ask for the same in different
spellings.  Between two requests, files and environment may change. -/
inductive Respelled (call : Caller) (start : World) : World → World → Prop where
  | start : Respelled call start start start
  | request {w w' : World} (h : Respelled call start w w') {α : Type} {q q' : Request α}
      (hq : q.Like SameLower start.registry.settings.endOfArgs w.files w'.files q') :
      Respelled call start ((q.run call).ends w).2 ((q'.run call).ends w').2
  | outside {w w' v v' : World} (h : Respelled call start w w') {environment : Environment}
      (hr : v.registry = { w.registry with environment })
      (hr' : v'.registry = { w'.registry with environment }) : Respelled call start v v'

/-- Two registries have the same values, aliases and triggers. -/
structure SameTables (w w' : World) : Prop where
  values_eq : w.registry.values = w'.registry.values
  aliases_eq : w.registry.aliases = w'.registry.aliases
  triggers_eq : w.registry.triggers = w'.registry.triggers

theorem Parallel.sameTables {w w' : World} (h : Parallel files files' settings w w') :
    SameTables w w' := ⟨h.like.values_eq, h.like.aliases_eq, h.like.triggers_eq⟩

section Session

variable {depth : Nat} {start w w' : World}
  (hcase : start.registry.settings.caseSensitive = false)
  (hhooks : ∀ hook, ¬ start.registry.settings.Reads hook)
  (hsink : start.registry.settings.IdleSink (Callable.call depth))
include hcase hhooks hsink

/-- One request in two spellings. -/
theorem Parallel.request (h : Parallel w.files w'.files start.registry.settings w w') {α : Type}
    {q q' : Request α}
    (hq : q.Like SameLower start.registry.settings.endOfArgs w.files w'.files q') :
    Paired (fun _ => False) (Parallel w.files w'.files start.registry.settings)
      (q.AnswerLike SameLower start.registry.settings.endOfArgs)
      ((q.run (Callable.call depth)).ends w) ((q'.run (Callable.call depth)).ends w') :=
  Request.inStep (inStep hcase hsink depth) hq (.inl hhooks) w w' h

theorem Respelled.parallel (h : Respelled (Callable.call depth) start w w') :
    Parallel w.files w'.files start.registry.settings w w' := by
  induction h with
  | start => exact ⟨⟨rfl, rfl⟩, rfl, rfl, .refl orthography_sameLower _⟩
  | @request w w' _ α q q' hq ih =>
    have hend := ih.request hcase hhooks hsink hq
    generalize (q.run (Callable.call depth)).ends w = first at hend
    generalize (q'.run (Callable.call depth)).ends w' = second at hend
    cases hend with
    | answers _ hworlds =>
      exact ⟨⟨rfl, rfl⟩, hworlds.settings_eq, hworlds.settings_eq', hworlds.like⟩
    | fails f hworlds =>
      exact ⟨⟨rfl, rfl⟩, hworlds.settings_eq, hworlds.settings_eq', hworlds.like⟩
    | stops hstop _ _ => cases hstop
  | outside _ hr hr' ih =>
    refine ⟨⟨rfl, rfl⟩, hr ▸ ih.settings_eq, hr' ▸ ih.settings_eq', ?_⟩
    rw [hr, hr']
    exact { ih.like with environment_eq := rfl }

/-- **Letter case makes no difference to a session.**  Let two sessions start from a registry that
does not tell cases apart, without hooks for readings and with an error sink that never fails and
leaves the registry as it is, and let them ask for the same in different spellings.  Wherever they
come to, the registries have the same values, aliases and triggers.  So they have behind the next
request, in two spellings again, and that succeeds in both sessions, with answers that differ in the
spelling of names in problems at most, or fails in both with the same failure. -/
theorem respelled_sessions_agree (h : Respelled (Callable.call depth) start w w') :
    SameTables w w' ∧
      ∀ {α : Type} {q q' : Request α},
        q.Like SameLower start.registry.settings.endOfArgs w.files w'.files q' →
          Paired (fun _ => False) SameTables
            (q.AnswerLike SameLower start.registry.settings.endOfArgs)
            ((q.run (Callable.call depth)).ends w) ((q'.run (Callable.call depth)).ends w') := by
  have hparallel := h.parallel hcase hhooks hsink
  refine ⟨hparallel.sameTables, fun {α} {q} {q'} hq => ?_⟩
  exact (hparallel.request hcase hhooks hsink hq).mono (fun _ _ => Parallel.sameTables)
    fun _ _ => id

end Session

/-! ### A variable in Greek letters -/

/-- A name in capitals, where the last sigma is written like the others, and in small letters, where
it is not. -/
theorem sameLower_road : SameLower "ΟΔΟΣ" "οδος" := by
  unfold SameLower
  decide +kernel

/-- Declares a variable with an alias, and with flags for both names. -/
def roadRequest (name other : String) : Request String :=
  .define name [(.text "aliases", .text other)] [("command_triggers", .bool true)]

/-- Where a new session comes to with the declaration. -/
def roadSession (name other : String) : World :=
  (((roadRequest name other).run Caller.standard).ends (newSession [])).2

theorem roadSession_isDefined :
    (roadSession "ΟΔΟΣ" "Weg").registry.isDefined "weg" = true := by
  decide +kernel

/-- The declaration in capitals and in small letters. -/
theorem roadSession_respelled :
    Respelled Caller.standard (newSession []) (roadSession "ΟΔΟΣ" "Weg")
      (roadSession "οδος" "WEG") := by
  have halias : SameLower "Weg" "WEG" := by
    unfold SameLower
    decide +kernel
  have hfield : VariableField.model.field? (.text "aliases") = some .aliases := by decide +kernel
  exact .request .start (.define sameLower_road
    (.cons (.names hfield rfl (.one (.text halias))) .nil) (.cons (.refl _) .nil))

/-- A variable is declared and set by its flag, in capitals and in small letters. -/
theorem road_in_two_spellings :
    let call := Caller.standard
    let start := newSession []
    let endOfArgs := start.registry.settings.endOfArgs
    let w := roadSession "ΟΔΟΣ" "Weg"
    let w' := roadSession "οδος" "WEG"
    start.registry.settings.caseSensitive = false ∧
      (∀ hook, ¬ start.registry.settings.Reads hook) ∧
      start.registry.settings.IdleSink call ∧ Respelled call start w w' ∧
      (Request.readArguments [.text "-WEG"]).Like SameLower endOfArgs w.files w'.files
        (.readArguments [.text "-weg"]) ∧
      w.registry.isDefined "weg" = true ∧ SameTables w w' ∧
      Paired (fun _ => False) SameTables (LeftLike SameLower endOfArgs)
        ((readArguments call [.text "-WEG"]).ends w)
        ((readArguments call [.text "-weg"]).ends w') := by
  have hcase : (newSession []).registry.settings.caseSensitive = false := by decide +kernel
  have hhooks : ∀ hook, ¬ (newSession []).registry.settings.Reads hook :=
    not_reads_of_unhooked (by decide +kernel)
  have hsink : (newSession []).registry.settings.IdleSink (Callable.call maxCallDepth) :=
    Settings.idleSink_of_keeper (by decide +kernel) _
  have hflag : SameLower "-WEG" "-weg" := by
    unfold SameLower
    decide +kernel
  have hread : (Request.readArguments [.text "-WEG"]).Like SameLower
      (newSession []).registry.settings.endOfArgs (roadSession "ΟΔΟΣ" "Weg").files
      (roadSession "οδος" "WEG").files (.readArguments [.text "-weg"]) :=
    .readArguments (.cons (.flag hflag (by decide) (by decide +kernel) (by decide +kernel)) .nil)
  obtain ⟨htables, hnext⟩ := respelled_sessions_agree hcase hhooks hsink roadSession_respelled
  exact ⟨hcase, hhooks, hsink, roadSession_respelled, hread, roadSession_isDefined, htables,
    hnext hread⟩

end ConfigVars
