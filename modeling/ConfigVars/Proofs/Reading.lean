import ConfigVars.Proofs.Alike

/-!
# Readings that go alike

Reading a file or a command line is a long sequence of lookups, checks, assignments, resets and
reports.  It goes alike when its hooks do, and when storing a checked value that is there and
resetting a variable do (`Ingests`): line by line for a file (`Ingests.applyLine`,
`Ingests.readSource`), and flag by flag for a command line (`Ingests.scan`,
`Ingests.readArguments`).

What a line does is said by itself: one that names a variable (`LogicalLine.Assigns`) resets the
variable or stores the value of the line (`applyLine_ends`, `applyValue_ends`).
-/

namespace ConfigVars

open ConfigVars.Text Run

/-- What readings call, store and reset goes alike under two callers. -/
structure Ingests (P : Registry → Prop) (call call' : Caller) : Prop
    extends HooksAlike P call call' where
  store : ∀ o name {v : Value} place, v.isAbsent = false →
    Alike P (store call o name v place) (store call' o name v place)
  reset : ∀ name, Alike P (reset call name) (reset call' name)

variable {P : Registry → Prop} {call call' : Caller}

theorem WritesAlike.note (h : WritesAlike P call call') (o : Outcome) (p : Problem) :
    Alike P (note call o p) (ConfigVars.note call' o p) :=
  (h.report p).bind fun _ => Alike.pure _

/-- Where variables may take any value, storing and resetting go alike. -/
theorem HooksAlike.ingests (h : HooksAlike P call call') (hset : Settable P) :
    Ingests P call call' where
  toHooksAlike := h
  store o name v place _ := by
    refine (h.validate name v).bind fun valid => ?_
    split
    · exact (h.assign hset name v).bind fun _ => Alike.pure _
    · exact h.note o _
  reset name := h.reset hset name

/-! ### Lines that are assignments -/

/-- The place of a line in a source. -/
def LogicalLine.place (line : LogicalLine) (source : String) : Place :=
  { source := some source, line := some (line.number : Int) }

/-- The assignment that a line is, unless it is left out or has no name. -/
def LogicalLine.Assigns (line : LogicalLine) (a : Assignment) : Prop :=
  isIgnored (trimWhile isBlank line.text) = false ∧
    Assignment.ofLine (trimWhile isBlank line.text) = some a

/-- A line without a hook is applied to what its name stands for, if that is the name of a
variable. -/
theorem applyLine_ends {line : LogicalLine} {a : Assignment} (h : line.Assigns a)
    (source : String) (o : Outcome) (w : World) :
    (applyLine call none source o line).ends w =
      if w.registry.isDefined (w.registry.resolve (String.ofList a.name)) then
        (applyValue call o (w.registry.resolve (String.ofList a.name)) a.value
          (line.place source)).ends w
      else
        (note call o (.reading
          (.undefinedVariable (w.registry.resolve (String.ofList a.name)))
          (line.place source))).ends w := by
  unfold applyLine
  simp only [h.1, handled, Bool.false_eq_true, if_false, pure_bind]
  rw [applyText, h.2]
  dsimp only
  rw [ends_bind_registry]
  split <;> rfl

/-- The value that a line gives to a variable, unless the line resets it. -/
def lineValue (r : Registry) (spec : VariableSpec) :
    Option (List Char) → Except Failure (Option Value)
  | none => .ok (if spec.argumentRequired then none else some flagValue)
  | some cs =>
    (if spec.expand then expand r r.environment (.text (String.ofList cs))
      else .ok (.text (String.ofList cs))).map some

theorem lineValue_present {r : Registry} {spec : VariableSpec} {value : Option (List Char)}
    {v : Value} (h : lineValue r spec value = .ok (some v)) : v.isAbsent = false := by
  cases value with
  | none =>
    rw [lineValue] at h
    split at h <;> cases h
    rfl
  | some cs =>
    rw [lineValue] at h
    split at h
    · cases hv : expand r r.environment (.text (String.ofList cs)) with
      | error f =>
        rw [hv] at h
        cases h
      | ok v' =>
        rw [hv] at h
        cases h
        obtain ⟨t, rfl⟩ := expand_text hv
        rfl
    · cases h
      rfl

/-- A line for a variable resets it, or stores the value of the line. -/
theorem applyValue_ends (call : Caller) (o : Outcome) (name : String)
    (value : Option (List Char)) (place : Place) (w : World) :
    (applyValue call o name value place).ends w =
      match w.registry.find name with
      | .error p => (.error (.problem p), w)
      | .ok (_, spec) =>
        match lineValue w.registry spec value with
        | .error f => (.error f, w)
        | .ok none => Run.ends (do let _ ← reset call name; return o.counted) w
        | .ok (some v) => (store call o name v place).ends w := by
  rw [applyValue, ends_bind_registry, Registry.spec]
  cases w.registry.find name with
  | error p => rfl
  | ok found =>
    obtain ⟨canonical, spec⟩ := found
    have hspec : (Except.ok (canonical, spec) : Except Problem _).map Prod.snd = .ok spec := rfl
    rw [hspec, orProblem_ok_bind]
    cases value with
    | none =>
      dsimp only [lineValue]
      cases spec.argumentRequired <;> rfl
    | some cs =>
      dsimp only [lineValue]
      rw [ends_bind_registry]
      cases spec.expand with
      | false => rfl
      | true => cases expand w.registry w.registry.environment (.text (String.ofList cs)) <;> rfl

theorem note_answers (call : Caller) (o : Outcome) (p : Problem) :
    Answers (· = o.withProblem p) (note call o p) :=
  Answers.bind fun _ => Answers.pure rfl

/-- A problem never looks like an assignment. -/
theorem Outcome.counted_ne_withProblem (o : Outcome) (p : Problem) :
    o.counted ≠ o.withProblem p := by
  intro hsame
  have happlied := congrArg Outcome.applied hsame
  simp only [Outcome.counted, Outcome.withProblem] at happlied
  omega

namespace Ingests

/-! ### Files -/

theorem applyValue (h : Ingests P call call') (o : Outcome) (name : String)
    (value : Option (List Char)) (place : Place) :
    Alike P (applyValue call o name value place)
      (ConfigVars.applyValue call' o name value place) := by
  refine Alike.bind_registry fun r _ => (Alike.orProblem _).bind fun spec => ?_
  cases value with
  | none =>
    dsimp only
    split
    · exact (h.reset name).bind fun _ => Alike.pure _
    · exact h.store o name place rfl
  | some cs =>
    refine Alike.bind_registry fun r _ => ?_
    split
    · refine Alike.orFailure_bind fun v hv => ?_
      obtain ⟨t, rfl⟩ := expand_text hv
      exact h.store o name place rfl
    · exact h.store o name place rfl

theorem applyText (h : Ingests P call call') (o : Outcome) (text : List Char) (place : Place) :
    Alike P (applyText call o text place) (ConfigVars.applyText call' o text place) := by
  unfold ConfigVars.applyText
  split
  · exact h.note o _
  · refine Alike.bind_registry fun r _ => ?_
    dsimp only
    split
    · exact h.applyValue o _ _ place
    · exact h.note o _

/-- The line hook, where it is one of the settings of a registry with the property. -/
theorem handled (h : Ingests P call call') {r : Registry} (hr : P r) {hook : Option Callable}
    (hhook : r.settings.lineParse = hook) (source : String) (number : Nat) (text : List Char) :
    Alike P (handled call hook source number text)
      (ConfigVars.handled call' hook source number text) := by
  cases hook with
  | none => exact Alike.pure false
  | some c => exact (h.reading hr (.inr (.inl hhook)) _).bind fun reply => Alike.pure _

theorem applyLine (h : Ingests P call call') {r : Registry} (hr : P r) {hook : Option Callable}
    (hhook : r.settings.lineParse = hook) (source : String) (o : Outcome) (line : LogicalLine) :
    Alike P (applyLine call hook source o line)
      (ConfigVars.applyLine call' hook source o line) := by
  unfold ConfigVars.applyLine
  dsimp only
  split
  · exact Alike.pure o
  · refine (h.handled hr hhook source line.number _).bind fun done => ?_
    split
    · exact Alike.pure o
    · exact h.applyText o _ _

theorem applyLines (h : Ingests P call call') {r : Registry} (hr : P r) {hook : Option Callable}
    (hhook : r.settings.lineParse = hook) (source : String) (lines : List LogicalLine)
    (o : Outcome) :
    Alike P (applyLines call hook source o lines)
      (ConfigVars.applyLines call' hook source o lines) := by
  induction lines generalizing o with
  | nil => exact Alike.pure o
  | cons line rest ih => exact (h.applyLine hr hhook source o line).bind fun o' => ih o'

/-- Lines without a hook leave a registry that has the property. -/
theorem applyLines_keep (h : Ingests P call call) {w w' : World} (hw : P w.registry)
    (hhook : w.registry.settings.lineParse = none) {source : String} {lines : List LogicalLine}
    {o o' : Outcome}
    (hends : (ConfigVars.applyLines call none source o lines).ends w = (.ok o', w')) :
    P w'.registry := by
  have hkeep := (h.applyLines hw hhook source lines o w hw).2
  rw [hends] at hkeep
  exact hkeep

theorem applyReading (h : Ingests P call call') {r : Registry} (hr : P r)
    {hook : Option Callable} (hhook : r.settings.lineParse = hook) (source : String)
    (reading : Reading) :
    Alike P (applyReading call hook source reading)
      (ConfigVars.applyReading call' hook source reading) := by
  unfold ConfigVars.applyReading
  dsimp only
  split
  · exact h.applyLines hr hhook source _ _
  · exact (h.applyLines hr hhook source _ _).bind fun o => h.note _ _
  · exact (h.applyLines hr hhook source _ _).bind fun o => Alike.throw _

/-- **Reading a source goes alike.** -/
theorem readSource (h : Ingests P call call') (s : Source) :
    Alike P (readSource call s) (ConfigVars.readSource call' s) := by
  refine Alike.bind_registry fun r hr => ?_
  dsimp only
  cases hfile : r.settings.fileParse with
  | some hook => exact (h.reading hr (.inl hfile) _).bind fun reply => Alike.pure _
  | none =>
    refine Alike.get.bind fun w => ?_
    split
    · exact Alike.throw _
    · exact h.note _ _
    · exact (h.applyReading hr rfl s.name _).bind fun o =>
        (Alike.detail _).bind fun _ => Alike.pure o

/-! ### Command lines -/

theorem applyFlag (h : Ingests P call call') (o : Outcome) (token name : String)
    (argv : List Value) :
    Alike P (applyFlag call o token name argv) (ConfigVars.applyFlag call' o token name argv) := by
  refine Alike.bind_registry fun r _ => (Alike.orProblem _).bind fun spec => ?_
  dsimp only
  split
  · split
    · exact (h.store o name _ rfl).bind fun o' => Alike.pure _
    · exact (h.note o _).bind fun o' => Alike.pure _
  · exact (h.store o name _ rfl).bind fun o' => Alike.pure _

/-- The scan, with the settings of a registry that has the property. -/
theorem scan (h : Ingests P call call') {r : Registry} (hr : P r) (fuel : Nat)
    (argv : List Value) (o : Outcome) :
    Alike P (scan call r.settings fuel argv o) (ConfigVars.scan call' r.settings fuel argv o) := by
  induction fuel generalizing argv o with
  | zero => exact Alike.throw _
  | succ fuel ih =>
    rcases argv with _ | ⟨v, rest⟩
    · exact Alike.pure _
    · cases v with
      | text token =>
        unfold ConfigVars.scan
        split
        · exact Alike.pure _
        · split
          · exact Alike.pure _
          -- triggers are looked up in the registry as it is now, hooks in the settings from before
          · refine Alike.bind_registry fun r' _ => ?_
            split
            · exact (h.note o _).bind fun o' => ih rest o'
            · rename_i name _
              cases hhook : r.settings.argParse with
              | none => exact (h.applyFlag o token name rest).bind fun p => ih p.1 p.2
              | some hook =>
                refine (h.reading hr (.inr (.inr (.inr hhook))) _).bind fun reply => ?_
                split
                · exact ih _ o
                · exact (h.applyFlag o token name _).bind fun p => ih p.1 p.2
      | _ => exact Alike.pure _

/-- **Reading a command line goes alike.** -/
theorem readArguments (h : Ingests P call call') (argv : List Value) :
    Alike P (readArguments call argv) (ConfigVars.readArguments call' argv) := by
  refine Alike.bind_registry fun r hr => ?_
  dsimp only
  cases hcmd : r.settings.cmdParse with
  | some hook => exact (h.reading hr (.inr (.inr (.inl hcmd))) _).bind fun reply => Alike.pure _
  | none =>
    exact (h.scan hr _ _ _).bind fun p => (Alike.detail _).bind fun _ => Alike.pure _

end Ingests

end ConfigVars
