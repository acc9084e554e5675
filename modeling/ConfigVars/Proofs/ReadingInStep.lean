import ConfigVars.Proofs.InStep

/-!
# Readings in step

A line of a file, or a flag of a command line, may have its name in another writing (`TextLike`,
`ArgumentLike`); the value stays as it is, and so does the end marker.  Then readings go in lockstep
and come to outcomes that are alike (`InStep.readSource`, `InStep.readArguments`).

Hooks are given what is read as it was written.  So there may be hooks for readings only where both
worlds read the very same.
-/

namespace ConfigVars

open ConfigVars.Text Run

section Like

variable (same : String → String → Prop)

/-- Texts of lines that differ in the writing of the name that they start with. -/
inductive TextLike : List Char → List Char → Prop where
  | refl (text : List Char) : TextLike text text
  | named {name name' rest : List Char} (h : same (String.ofList name) (String.ofList name'))
      (hname : IsLineName name)
      (hrest : ∀ c, rest.head? = some c → Assignment.isNameChar c = false) :
      TextLike (name ++ rest) (name' ++ rest)

/-- Logical lines that differ in the writing of a name, apart from blanks around them. -/
structure LogicalLine.Like (line line' : LogicalLine) : Prop where
  number_eq : line.number = line'.number
  text : TextLike same (trimWhile isBlank line.text) (trimWhile isBlank line'.text)

/-- Readings with the same lines up to the writing of names. -/
structure Reading.Like (reading reading' : Reading) : Prop where
  complete : List.Forall₂ (LogicalLine.Like same)
    (splitLogical (reading.lines.map String.toList)).1
    (splitLogical (reading'.lines.map String.toList)).1
  waiting : List.Forall₂ (LogicalLine.Like same)
    (splitLogical (reading.lines.map String.toList)).2.toList
    (splitLogical (reading'.lines.map String.toList)).2.toList
  breakOff_eq : reading.breakOff = reading'.breakOff

/-- What comes of reading sources with the same lines up to the writing of names. -/
inductive ReadLike : Except Source.Fault Reading → Except Source.Fault Reading → Prop where
  | readings {reading reading' : Reading} (h : reading.Like same reading') :
      ReadLike (.ok reading) (.ok reading')
  | fails (fault : Source.Fault) : ReadLike (.error fault) (.error fault)

/-- Sources of one name that are read alike. -/
structure Source.Like (files files' : FileTree) (s s' : Source) : Prop where
  name_eq : s.name = s'.name
  read : ReadLike same (s.read files) (s'.read files')

/-- Arguments that differ in the writing of a flag, neither of them the end marker. -/
inductive ArgumentLike (endOfArgs : String) : Value → Value → Prop where
  | refl (v : Value) : ArgumentLike endOfArgs v v
  | flag {token token' : String} (h : same token token') (hflag : isFlag token = true)
      (hmarker : token ≠ endOfArgs) (hmarker' : token' ≠ endOfArgs) :
      ArgumentLike endOfArgs (.text token) (.text token')

end Like

variable {same : String → String → Prop} {files files' : FileTree} {settings : Settings}
  {stop : Failure → Prop} {R : World → World → Prop} {call : Caller}

/-! ### With the same writing, alike is equal -/

theorem TextLike.eq {text text' : List Char} (h : TextLike Eq text text') : text = text' := by
  cases h with
  | refl text => rfl
  | named h _ _ => rw [String.ofList_injective h]

theorem ArgumentLike.eq {endOfArgs : String} {v v' : Value}
    (h : ArgumentLike Eq endOfArgs v v') : v = v' := by
  cases h with
  | refl v => rfl
  | flag h _ _ _ => rw [h]

theorem forall₂_argumentLike_eq {endOfArgs : String} {argv argv' : List Value}
    (h : List.Forall₂ (ArgumentLike Eq endOfArgs) argv argv') : argv = argv' :=
  List.forall₂_eq_eq_eq ▸ h.imp fun _ _ => ArgumentLike.eq

theorem Source.Like.refl (files : FileTree) (s : Source) : s.Like same files files s := by
  refine ⟨rfl, ?_⟩
  cases s.read files with
  | error fault => exact .fails fault
  | ok reading =>
    have hlines := forall₂_refl (V := LogicalLine.Like same) fun line => ⟨rfl, .refl _⟩
    exact .readings ⟨hlines _, hlines _, rfl⟩

theorem Source.toValue_ne_problem (s : Source) : ∀ p, [s.toValue] ≠ [.problem p] := by
  intro p hp
  cases s with
  | text content name => cases name <;> cases hp
  | _ => cases hp

/-! ### Lines -/

theorem IsLineName.isIgnored {name : List Char} (h : IsLineName name) (rest : List Char) :
    isIgnored (name ++ rest) = false := by
  obtain ⟨c, others, rfl⟩ := List.exists_cons_of_ne_nil h.ne_nil
  have hused : c ≠ '#' := fun hc => h.no_comment (by rw [hc]; rfl)
  simp [ConfigVars.isIgnored, hused]

/-- A line that starts with a name is an assignment to that name. -/
theorem IsLineName.ofLine {name rest : List Char} (h : IsLineName name)
    (hrest : ∀ c, rest.head? = some c → Assignment.isNameChar c = false) :
    Assignment.ofLine (name ++ rest) = some ⟨name, Assignment.valueOf rest⟩ := by
  have hfront := Text.takeWhile_front h.unbroken hrest
  rw [Assignment.ofLine, hfront.1, hfront.2]
  simp [h.ne_nil]

theorem TextLike.isIgnored_eq (hsame : Orthography same) {text text' : List Char}
    (h : TextLike same text text') : isIgnored text' = isIgnored text := by
  cases h with
  | refl text => rfl
  | named h hname _ => rw [hname.isIgnored, (hsame.lineName h hname).isIgnored]

namespace InStep

variable (h : InStep same files files' settings stop R call)
include h

theorem applyValue {o o' : Outcome} (ho : o.Like same o') (name : String)
    (value : Option (List Char)) (place : Place) :
    Lockstep stop R (Outcome.Like same) (applyValue call o name value place)
      (ConfigVars.applyValue call o' name value place) := by
  refine .bind_registry fun w w' hw => (h.spec (h.orthography.refl name) hw).bind ?_
  rintro spec spec' hspec
  cases value with
  | none =>
    dsimp only
    rw [← hspec.argumentRequired_eq]
    split
    · exact (h.reset (h.orthography.refl name)).bind_eq fun _ => .pure ho.counted
    · exact h.store ho name flagValue (.refl place)
  | some cs =>
    refine .bind_registry fun w w' hw => ?_
    have hlike := h.like hw
    rw [← hspec.expand_eq, hlike.expand_eq h.orthography (h.folds hw), hlike.environment_eq]
    split
    · exact (Lockstep.orFailure _).bind_eq fun v => h.store ho name v (.refl place)
    · exact h.store ho name _ (.refl place)

theorem applyText {o o' : Outcome} (ho : o.Like same o') {text text' : List Char}
    (htext : TextLike same text text') (place : Place) :
    Lockstep stop R (Outcome.Like same) (applyText call o text place)
      (ConfigVars.applyText call o' text' place) := by
  -- what comes of a line depends on its value and on what its name stands for
  have hassigned : ∀ {name name' : List Char} (value : Option (List Char)),
      same (String.ofList name) (String.ofList name') →
      Lockstep stop R (Outcome.Like same)
        (do
          let r ← registry
          let resolved := r.resolve (String.ofList name)
          if r.isDefined resolved then ConfigVars.applyValue call o resolved value place
          else ConfigVars.note call o (.reading (.undefinedVariable resolved) place))
        (do
          let r ← registry
          let resolved := r.resolve (String.ofList name')
          if r.isDefined resolved then ConfigVars.applyValue call o' resolved value place
          else ConfigVars.note call o' (.reading (.undefinedVariable resolved) place)) := by
    intro name name' value hname
    refine .bind_registry fun w w' hw => ?_
    have hlike := h.like hw
    dsimp only
    have hsame := h.orthography.refl (w.registry.resolve (String.ofList name))
    rw [hlike.resolve_eq (h.folds hw) hname, hlike.isDefined_eq (h.folds hw) hsame]
    split
    · exact h.applyValue ho _ value place
    · exact h.note ho (.refl _)
  cases htext with
  | refl text =>
    unfold ConfigVars.applyText
    cases Assignment.ofLine text with
    | none => exact h.note ho (.refl _)
    | some a => exact hassigned a.value (h.orthography.refl _)
  | named hsame hname hrest =>
    unfold ConfigVars.applyText
    rw [hname.ofLine hrest, (h.orthography.lineName hsame hname).ofLine hrest]
    exact hassigned _ hsame

/-- A line hook is given the text of the line. -/
theorem handled {hook : Option Callable} (hhook : hook = none ∨ same = Eq) (source : String)
    (number : Nat) {text text' : List Char} (htext : TextLike same text text') :
    Lockstep stop R Eq (handled call hook source number text)
      (ConfigVars.handled call hook source number text') := by
  cases hook with
  | none => exact .pure rfl
  | some c =>
    rcases hhook with hnone | rfl
    · cases hnone
    · rw [htext.eq]
      exact (h.called c true _ (by simp)).bind_eq fun _ => .pure rfl

theorem applyLine {hook : Option Callable} (hhook : hook = none ∨ same = Eq) (source : String)
    {o o' : Outcome} (ho : o.Like same o') {line line' : LogicalLine}
    (hline : line.Like same line') :
    Lockstep stop R (Outcome.Like same) (applyLine call hook source o line)
      (ConfigVars.applyLine call hook source o' line') := by
  unfold ConfigVars.applyLine
  dsimp only
  rw [hline.text.isIgnored_eq h.orthography, hline.number_eq]
  split
  · exact .pure ho
  · refine (h.handled hhook source line'.number hline.text).bind_eq fun done => ?_
    split
    · exact .pure ho
    · exact h.applyText ho hline.text _

theorem applyLines {hook : Option Callable} (hhook : hook = none ∨ same = Eq) (source : String)
    {lines lines' : List LogicalLine} (hlines : List.Forall₂ (LogicalLine.Like same) lines lines')
    {o o' : Outcome} (ho : o.Like same o') :
    Lockstep stop R (Outcome.Like same) (applyLines call hook source o lines)
      (ConfigVars.applyLines call hook source o' lines') := by
  induction hlines generalizing o o' with
  | nil => exact .pure ho
  | cons hline _ ih => exact (h.applyLine hhook source ho hline).bind fun _ _ ho => ih ho

theorem applyReading {hook : Option Callable} (hhook : hook = none ∨ same = Eq) (source : String)
    {reading reading' : Reading} (hreading : reading.Like same reading') :
    Lockstep stop R (Outcome.Like same) (applyReading call hook source reading)
      (ConfigVars.applyReading call hook source reading') := by
  have hcomplete := h.applyLines hhook source hreading.complete (.refl (.fresh source))
  unfold ConfigVars.applyReading
  dsimp only
  rw [hreading.breakOff_eq]
  split
  · exact h.applyLines hhook source (List.rel_append hreading.complete hreading.waiting) (.refl _)
  · exact hcomplete.bind fun _ _ ho => h.note ho.failed (.refl _)
  · exact hcomplete.bind fun _ _ _ => .throw _

/-- **Reading sources that are alike goes in lockstep.** -/
theorem readSource {s s' : Source} (hs : s.Like same files files' s')
    (hhooks : (∀ hook, ¬ settings.Reads hook) ∨ same = Eq ∧ s = s') :
    Lockstep stop R (Outcome.Like same) (readSource call s) (ConfigVars.readSource call s') := by
  refine .bind_registry fun w w' hw => ?_
  obtain ⟨error, herror⟩ := (h.like hw).settings_eq
  rw [herror, h.settings_eq hw]
  dsimp only
  cases hfile : settings.fileParse with
  | some hook =>
    rcases hhooks with hnone | ⟨rfl, rfl⟩
    · exact absurd (.inl hfile) (hnone hook)
    · exact (h.called hook true _ s.toValue_ne_problem).bind_eq fun _ => .pure (.refl _)
  | none =>
    have hline : settings.lineParse = none ∨ same = Eq := by
      rcases hhooks with hnone | ⟨heq, -⟩
      · exact .inl (Settings.unhooked hnone).2.1
      · exact .inr heq
    refine .bind_get fun w w' hw => ?_
    obtain ⟨hfiles, hfiles'⟩ := h.files_eq hw
    rw [hfiles, hfiles', hs.name_eq]
    have hread := hs.read
    generalize s.read files = x at hread
    generalize s'.read files' = x' at hread
    cases hread with
    | fails fault =>
      cases fault with
      | failure f => exact .throw f
      | file fault => exact h.note (.refl _) (.refl _)
    | readings hreading =>
      exact (h.applyReading hline _ hreading).bind fun _ _ ho =>
        (h.detail _ _).bind_eq fun _ => .pure ho

end InStep

/-! ### Command lines -/

/-- What is left of two command lines, with outcomes that are alike. -/
abbrev LeftLike (same : String → String → Prop) (endOfArgs : String)
    (a a' : List Value × Outcome) : Prop :=
  List.Forall₂ (ArgumentLike same endOfArgs) a.1 a'.1 ∧ a.2.Like same a'.2

/-- Handles a flag and goes on with the scan. -/
def scanFlag (call : Caller) (hook : Option Callable)
    (again : List Value → Outcome → Run (List Value × Outcome)) (token : String)
    (rest : List Value) (o : Outcome) : Run (List Value × Outcome) := do
  match (← registry).trigger? token with
  | none =>
    let o ← note call o (.reading .unknownFlag { token := some token })
    again rest o
  | some name =>
    match hook with
    | none =>
      let (rest, o) ← applyFlag call o token name rest
      again rest o
    | some hook =>
      let reply ← call hook true [.text token, .text name, .list rest]
      if reply.answer.isTruthy then again reply.lastList o
      else
        let (rest, o) ← applyFlag call o token name reply.lastList
        again rest o

section Scan

variable {call : Caller} {settings : Settings} {token : String} {fuel : Nat} {rest : List Value}
  {o : Outcome}

theorem scan_plain (hplain : isFlag token = false) :
    scan call settings (fuel + 1) (.text token :: rest) o = pure (.text token :: rest, o) := by
  rw [scan, hplain]
  rfl

theorem scan_marker (hflag : isFlag token = true) (hmarker : token = settings.endOfArgs) :
    scan call settings (fuel + 1) (.text token :: rest) o = pure (rest, o) := by
  rw [scan, hflag, if_neg (by simp), if_pos hmarker]

theorem scan_flag (hflag : isFlag token = true) (hmarker : token ≠ settings.endOfArgs) :
    scan call settings (fuel + 1) (.text token :: rest) o =
      scanFlag call settings.argParse (scan call settings fuel) token rest o := by
  rw [scan, hflag, if_neg (by simp), if_neg hmarker]
  rfl

end Scan

/-- Flags that are written differently are no values. -/
theorem takeArgument_like (hsame : Orthography same) {endOfArgs : String} {argv argv' : List Value}
    (h : List.Forall₂ (ArgumentLike same endOfArgs) argv argv') :
    (takeArgument argv).1 = (takeArgument argv').1 ∧
      List.Forall₂ (ArgumentLike same endOfArgs) (takeArgument argv).2 (takeArgument argv').2 := by
  cases h with
  | nil => exact ⟨rfl, .nil⟩
  | @cons v v' rest rest' hv hrest =>
    cases hv with
    | flag h hflag hmarker hmarker' =>
      rw [takeArgument, takeArgument, if_pos hflag, if_pos ((hsame.isFlag_eq h).trans hflag)]
      exact ⟨rfl, .cons (.flag h hflag hmarker hmarker') hrest⟩
    | refl v =>
      cases v with
      | text s =>
        simp only [takeArgument]
        split
        · exact ⟨rfl, .cons (.refl _) hrest⟩
        · exact ⟨rfl, hrest⟩
      | nothing => exact ⟨rfl, hrest⟩
      | _ => exact ⟨rfl, .cons (.refl _) hrest⟩

namespace InStep

variable (h : InStep same files files' settings stop R call)
include h

theorem applyFlag {o o' : Outcome} (ho : o.Like same o') {token token' : String}
    (htoken : same token token') (name : String) {endOfArgs : String} {argv argv' : List Value}
    (hargv : List.Forall₂ (ArgumentLike same endOfArgs) argv argv') :
    Lockstep stop R (LeftLike same endOfArgs) (applyFlag call o token name argv)
      (ConfigVars.applyFlag call o' token' name argv') := by
  have hplace : Place.Like same { token := some token } { token := some token' } := .flag htoken
  refine .bind_registry fun w w' hw => (h.spec (h.orthography.refl name) hw).bind ?_
  rintro spec spec' hspec
  dsimp only
  rw [← hspec.argumentRequired_eq]
  split
  · obtain ⟨hvalue, hrest⟩ := takeArgument_like h.orthography hargv
    generalize takeArgument argv = taken at hvalue hrest
    generalize takeArgument argv' = taken' at hvalue hrest
    obtain ⟨value, rest⟩ := taken
    obtain ⟨value', rest'⟩ := taken'
    obtain rfl : value = value' := hvalue
    cases value with
    | some s => exact (h.store ho name _ hplace).bind fun _ _ ho => .pure ⟨hrest, ho⟩
    | none => exact (h.note ho (.reading _ hplace)).bind fun _ _ ho => .pure ⟨hrest, ho⟩
  · exact (h.store ho name flagValue hplace).bind fun _ _ ho => .pure ⟨hargv, ho⟩

/-- A flag that is scanned in lockstep, where what comes behind it is. -/
theorem scanFlag {hook : Option Callable} (hhook : hook = none ∨ same = Eq)
    {endOfArgs : String} {again again' : List Value → Outcome → Run (List Value × Outcome)}
    (hagain : ∀ argv argv' o o', List.Forall₂ (ArgumentLike same endOfArgs) argv argv' →
      Outcome.Like same o o' →
        Lockstep stop R (LeftLike same endOfArgs) (again argv o) (again' argv' o'))
    {token token' : String} (htoken : same token token') {argv argv' : List Value}
    (hargv : List.Forall₂ (ArgumentLike same endOfArgs) argv argv') {o o' : Outcome}
    (ho : o.Like same o') :
    Lockstep stop R (LeftLike same endOfArgs) (scanFlag call hook again token argv o)
      (ConfigVars.scanFlag call hook again' token' argv' o') := by
  refine .bind_registry fun w w' hw => ?_
  rw [(h.like hw).trigger?_eq (h.folds hw) htoken]
  cases w.registry.trigger? token with
  | none => exact (h.note ho (.reading _ (.flag htoken))).bind fun _ _ ho => hagain _ _ _ _ hargv ho
  | some name =>
    cases hook with
    | none =>
      exact (h.applyFlag ho htoken name hargv).bind fun _ _ hleft =>
        hagain _ _ _ _ hleft.1 hleft.2
    | some hook =>
      rcases hhook with hnone | rfl
      · cases hnone
      · obtain rfl := forall₂_argumentLike_eq hargv
        obtain rfl : token = token' := htoken
        refine (h.called hook true _ (by simp)).bind_eq fun reply => ?_
        have hback := forall₂_refl (V := ArgumentLike Eq endOfArgs) .refl reply.lastList
        split
        · exact hagain _ _ _ _ hback ho
        · exact (h.applyFlag ho rfl name hback).bind fun _ _ hleft =>
            hagain _ _ _ _ hleft.1 hleft.2

/-- The scans of two command lines, with settings that differ in the error sink at most. -/
theorem scan (hhook : settings.argParse = none ∨ same = Eq) {settings' : Settings}
    (hend : settings'.endOfArgs = settings.endOfArgs)
    (hparse : settings'.argParse = settings.argParse) (fuel : Nat) {argv argv' : List Value}
    (hargv : List.Forall₂ (ArgumentLike same settings.endOfArgs) argv argv') {o o' : Outcome}
    (ho : o.Like same o') :
    Lockstep stop R (LeftLike same settings.endOfArgs) (scan call settings fuel argv o)
      (ConfigVars.scan call settings' fuel argv' o') := by
  induction fuel generalizing argv argv' o o' with
  | zero => exact .throw _
  | succ fuel ih =>
    cases hargv with
    | nil => exact .pure ⟨.nil, ho⟩
    | @cons v v' rest rest' hv hrest =>
      cases hv with
      | flag htoken hflag hmarker hmarker' =>
        rw [scan_flag hflag hmarker,
          scan_flag ((h.orthography.isFlag_eq htoken).trans hflag) (hend.symm ▸ hmarker'), hparse]
        exact h.scanFlag hhook (fun _ _ _ _ hargv ho => ih hargv ho) htoken hrest ho
      | refl v =>
        cases v with
        | text token =>
          cases hflag : isFlag token with
          | false =>
            rw [scan_plain hflag, scan_plain hflag]
            exact .pure ⟨.cons (.refl _) hrest, ho⟩
          | true =>
            by_cases hmarker : token = settings.endOfArgs
            · rw [scan_marker hflag hmarker, scan_marker hflag (hend.symm ▸ hmarker)]
              exact .pure ⟨hrest, ho⟩
            · rw [scan_flag hflag hmarker, scan_flag hflag (hend.symm ▸ hmarker), hparse]
              exact h.scanFlag hhook (fun _ _ _ _ hargv ho => ih hargv ho)
                (h.orthography.refl token) hrest ho
        | _ => exact .pure ⟨.cons (.refl _) hrest, ho⟩

/-- **Reading command lines that are alike goes in lockstep.** -/
theorem readArguments {argv argv' : List Value}
    (hargv : List.Forall₂ (ArgumentLike same settings.endOfArgs) argv argv')
    (hhooks : (∀ hook, ¬ settings.Reads hook) ∨ same = Eq) :
    Lockstep stop R (LeftLike same settings.endOfArgs) (readArguments call argv)
      (ConfigVars.readArguments call argv') := by
  refine .bind_registry fun w w' hw => ?_
  obtain ⟨error, herror⟩ := (h.like hw).settings_eq
  have hdefaults : ∃ defaults, withDefaults w.registry argv = defaults ++ argv ∧
      withDefaults w'.registry argv' = defaults ++ argv' := by
    rw [withDefaults, withDefaults, herror, ← (h.like hw).environment_eq]
    dsimp only
    cases w.registry.settings.cmdEnv.bind w.registry.environment.get? with
    | none => exact ⟨[], rfl, rfl⟩
    | some text => exact ⟨_, rfl, rfl⟩
  obtain ⟨defaults, hwhole, hwhole'⟩ := hdefaults
  have hall : List.Forall₂ (ArgumentLike same settings.endOfArgs) (defaults ++ argv)
      (defaults ++ argv') := List.rel_append (forall₂_refl .refl defaults) hargv
  dsimp only
  rw [herror, h.settings_eq hw, hwhole, hwhole', hall.length_eq]
  cases hcmd : settings.cmdParse with
  | some hook =>
    rcases hhooks with hnone | rfl
    · exact absurd (.inr (.inr (.inl hcmd))) (hnone hook)
    · obtain rfl := forall₂_argumentLike_eq hargv
      exact (h.called hook true _ (by simp)).bind_eq fun reply =>
        .pure ⟨forall₂_refl .refl _, .refl _⟩
  | none =>
    have hflag : settings.argParse = none ∨ same = Eq :=
      hhooks.imp_left fun hnone => (Settings.unhooked hnone).2.2.2
    have hmarker : ({ settings with error } : Settings).endOfArgs = settings.endOfArgs := rfl
    exact (h.scan hflag hmarker rfl _ hall (.refl _)).bind fun _ _ hleft =>
      (h.detail _ _).bind_eq fun _ => .pure hleft

end InStep

end ConfigVars
