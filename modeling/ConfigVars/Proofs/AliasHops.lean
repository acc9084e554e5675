import ConfigVars.Proofs.Invariant

/-!
# Aliases of aliases

An alias is followed once, so an alias of an alias is the name of no variable: it cannot be set,
reset or looked up.  The reader of files resolves the name of a line by itself, and passes what it
finds to operations that resolve it again.

* `applyOnce`: an assignment whose name is looked up once, like the name that a program sets, and
  is a variable's own from there on (`applyTo`).
* `Registry.IsChained`: a name that stands for an alias of a variable.

Where a name is not chained, the two lookups of the reader come to one, and a line is applied as
`applyOnce` says.  Where it is chained, they do not: the line sets a variable through a name that
the registry does not know (`line_follows_alias_once_unless_chained`, `chained_line_sets_variable`).
-/

namespace ConfigVars

open ConfigVars.Text Run

/-! ### Lines for a variable -/

/-- The declaration of a variable by its canonical name. -/
def Registry.declared (r : Registry) (canonical : String) : Except Problem VariableSpec :=
  match r.specs.get? canonical with
  | some spec => .ok spec
  | none => .error (.unknownVariable canonical)

/-- Sets a variable by its canonical name. -/
def assignTo (call : Caller) (canonical : String) (v : Value) : Run Value := do
  let spec ← orProblem ((← registry).declared canonical)
  update fun r => { r with values := r.values.put canonical v.toStored }
  match spec.onChange with
  | some hook => return (← call hook true [.text canonical, v.toGiven]).answer
  | none => return .bool true

/-- Sets a variable to its default by its canonical name. -/
def resetTo (call : Caller) (canonical : String) : Run Value := do
  let spec ← orProblem ((← registry).declared canonical)
  assignTo call canonical spec.default

/-- Checks a value for a variable by its canonical name. -/
def validateFor (call : Caller) (canonical : String) (v : Value) : Run Bool := do
  match (← registry).validators.get? canonical with
  | some validator => validator.accepts call canonical v
  | none => return true

/-- Checks a value for a variable by its canonical name, and sets it or notes what is wrong. -/
def storeTo (call : Caller) (o : Outcome) (canonical : String) (v : Value) (place : Place) :
    Run Outcome := do
  if ← validateFor call canonical v then
    let _ ← assignTo call canonical v
    return o.counted
  else note call o (.reading (.rejected canonical v) place)

/-- Applies the value of a line to a variable by its canonical name. -/
def applyTo (call : Caller) (o : Outcome) (canonical : String) (value : Option (List Char))
    (place : Place) : Run Outcome := do
  let spec ← orProblem ((← registry).declared canonical)
  match value with
  | none =>
    if spec.argumentRequired then
      let _ ← resetTo call canonical
      return o.counted
    else storeTo call o canonical flagValue place
  | some cs =>
    let v := Value.text (String.ofList cs)
    let r ← registry
    if spec.expand then storeTo call o canonical (← orFailure (expand r r.environment v)) place
    else storeTo call o canonical v place

/-- Applies an assignment whose name is looked up once. -/
def applyOnce (call : Caller) (o : Outcome) (a : Assignment) (place : Place) : Run Outcome := do
  let r ← registry
  let name := String.ofList a.name
  if r.isDefined name then applyTo call o (r.resolve name) a.value place
  else note call o (.reading (.undefinedVariable (r.resolve name)) place)

/-! ### A canonical name stays one -/

/-- The registry is sound and has a variable of a canonical name. -/
def Registry.Owns (canonical : String) (r : Registry) : Prop :=
  r.Sound ∧ r.specs.contains canonical = true

namespace Registry

/-- Variables are never removed. -/
theorem owns_stable (canonical : String) : Stable (Owns canonical) where
  settable v hr hdef := ⟨hr.1.assign hdef v, hr.2⟩
  declare name hr hd := by
    refine ⟨hr.1.declare name (Declaration.compiles hd), ?_⟩
    rw [declare_specs, Table.contains_put, hr.2, Bool.or_true]
  addAlias name target hr hfree := ⟨hr.1.addAlias name target hfree, hr.2⟩

/-- A canonical name is found as it stands. -/
theorem Owns.find {canonical : String} {r : Registry} (h : r.Owns canonical) :
    ∃ spec, r.find canonical = .ok (canonical, spec) ∧ r.declared canonical = .ok spec := by
  obtain ⟨spec, hspec⟩ := Option.isSome_iff_exists.mp h.2
  refine ⟨spec, h.1.find_of_get? hspec, ?_⟩
  rw [declared, hspec]

end Registry

section Owned

variable {canonical : String} {call : Caller}

/-! ### Operations on a canonical name -/

theorem assign_alike (h : CallersAlike (Registry.Owns canonical) call call) (v : Value) :
    Alike (Registry.Owns canonical) (assign call canonical v) (assignTo call canonical v) := by
  refine Alike.bind_registry fun r hr => ?_
  obtain ⟨spec, hfind, hdeclared⟩ := hr.find
  rw [hfind, hdeclared, orProblem_ok_bind, orProblem_ok_bind]
  -- the hook is called with the value stored, so the property has to survive the storing
  refine (Alike.update fun r hr => ?_).bind fun _ => ?_
  · exact (Registry.owns_stable canonical).settable v hr hr.2
  · cases spec.onChange with
    | none => exact Alike.pure _
    | some hook => exact (h hook true _).bind fun reply => Alike.pure reply.answer

theorem reset_alike (h : CallersAlike (Registry.Owns canonical) call call) :
    Alike (Registry.Owns canonical) (reset call canonical) (resetTo call canonical) := by
  refine Alike.bind_registry fun r hr => ?_
  obtain ⟨spec, hfind, hdeclared⟩ := hr.find
  rw [hfind, hdeclared, orProblem_ok_bind, orProblem_ok_bind]
  exact assign_alike h spec.default

theorem validate_alike (h : CallersAlike (Registry.Owns canonical) call call) (v : Value) :
    Alike (Registry.Owns canonical) (validate call canonical v)
      (validateFor call canonical v) := by
  refine Alike.bind_registry fun r hr => ?_
  obtain ⟨spec, hfind, -⟩ := hr.find
  rw [hfind, orProblem_ok_bind]
  dsimp only
  cases r.validators.get? canonical with
  | none => exact Alike.pure true
  | some validator =>
    cases validator with
    | search p => exact Alike.pure _
    | predicate c => exact (h c false _).bind fun reply => Alike.pure reply.answer.isTruthy

theorem store_alike (h : CallersAlike (Registry.Owns canonical) call call) (o : Outcome)
    (v : Value) (place : Place) :
    Alike (Registry.Owns canonical) (store call o canonical v place)
      (storeTo call o canonical v place) := by
  -- the check may declare variables and change aliases, but the name stays canonical
  refine (validate_alike h v).bind fun valid => ?_
  split
  · exact (assign_alike h v).bind fun _ => Alike.pure _
  · exact h.hooks.note o _

/-- **A line for a canonical name is a line for that variable**, whatever its hooks do. -/
theorem applyValue_alike (h : CallersAlike (Registry.Owns canonical) call call) (o : Outcome)
    (value : Option (List Char)) (place : Place) :
    Alike (Registry.Owns canonical) (applyValue call o canonical value place)
      (applyTo call o canonical value place) := by
  refine Alike.bind_registry fun r hr => ?_
  obtain ⟨spec, hfind, hdeclared⟩ := hr.find
  have hspec : r.spec canonical = .ok spec := by
    rw [Registry.spec, hfind]
    rfl
  rw [hspec, hdeclared, orProblem_ok_bind, orProblem_ok_bind]
  cases value with
  | none =>
    dsimp only
    split
    · exact (reset_alike h).bind fun _ => Alike.pure _
    · exact store_alike h o flagValue place
  | some cs =>
    refine Alike.bind_registry fun r _ => ?_
    split
    · exact (Alike.orFailure _).bind fun v => store_alike h o v place
    · exact store_alike h o _ place

end Owned

/-! ### Chained names -/

namespace Registry

/-- A name that stands for an alias of a variable. -/
def IsChained (r : Registry) (name : String) : Prop :=
  ∃ target, r.aliases.get? (r.resolve name) = some target ∧ r.specs.contains target = true

variable {r : Registry} {name : String}

theorem Sound.fold_resolve (h : r.Sound) : r.fold (r.resolve name) = r.resolve name := by
  unfold resolve
  cases ha : r.aliases.get? (r.fold name) with
  | none => exact r.fold_fold name
  | some target => exact (h.alias_folded _ target ha).2

/-- The second look at a name is one at the aliases of what the first has found. -/
theorem Sound.resolve_twice (h : r.Sound) :
    r.resolve (r.resolve name) = (r.aliases.get? (r.resolve name)).getD (r.resolve name) := by
  rw [show r.resolve (r.resolve name) = (r.aliases.get? (r.fold (r.resolve name))).getD
    (r.fold (r.resolve name)) from rfl, h.fold_resolve]

/-- A chained name is the name of no variable. -/
theorem IsChained.not_isDefined (h : r.Sound) (hchain : r.IsChained name) :
    r.isDefined name = false := by
  obtain ⟨target, halias, -⟩ := hchain
  exact h.alias_free _ (Option.isSome_of_eq_some halias)

/-- What a name stands for is the name of a variable where the name is one, or is chained. -/
theorem Sound.isDefined_resolve (h : r.Sound) :
    r.isDefined (r.resolve name) = true ↔ r.isDefined name = true ∨ r.IsChained name := by
  constructor
  · intro hdef
    rw [isDefined, h.resolve_twice] at hdef
    cases halias : r.aliases.get? (r.resolve name) with
    | none =>
      rw [halias] at hdef
      exact .inl hdef
    | some target =>
      rw [halias] at hdef
      exact .inr ⟨target, halias, hdef⟩
  -- a variable stands for itself, so only a chained name goes one step further
  · rintro (hdef | ⟨target, halias, hdef⟩)
    · rw [isDefined, h.resolve_resolve hdef]
      exact hdef
    · rw [isDefined, h.resolve_twice, halias]
      exact hdef

end Registry

/-! ### How a line is applied -/

/-- A line for a variable counts, or its value is rejected. -/
theorem applyValue_answers (call : Caller) (o : Outcome) (name : String)
    (value : Option (List Char)) (place : Place) :
    Answers (fun o' => o' = o.counted ∨
      ∃ v, o' = o.withProblem (.reading (.rejected name v) place))
      (applyValue call o name value place) := by
  have hstore : ∀ v, Answers (fun o' => o' = o.counted ∨
      ∃ v, o' = o.withProblem (.reading (.rejected name v) place))
      (store call o name v place) := by
    intro v
    refine Answers.bind fun valid => ?_
    split
    · exact Answers.bind fun _ => Answers.pure (.inl rfl)
    · exact Answers.bind fun _ => Answers.pure (.inr ⟨v, rfl⟩)
  refine Answers.bind fun r => Answers.bind fun spec => ?_
  cases value with
  | none =>
    dsimp only
    split
    · exact Answers.bind fun _ => Answers.pure (.inl rfl)
    · exact hstore _
  | some cs =>
    refine Answers.bind fun r => ?_
    split
    · exact Answers.bind fun v => hstore v
    · exact hstore _

section Lines

variable {call : Caller} {line : LogicalLine} {a : Assignment} {w : World}

/-- A line whose name is not chained is applied as if the name were looked up once. -/
theorem applyLine_of_not_chained
    (hcall : ∀ canonical, CallersAlike (Registry.Owns canonical) call call)
    (hw : w.registry.Sound) (h : line.Assigns a)
    (hfree : ¬ w.registry.IsChained (String.ofList a.name)) (source : String) (o : Outcome) :
    (applyLine call none source o line).ends w =
      (applyOnce call o a (line.place source)).ends w := by
  rw [applyLine_ends h, applyOnce, ends_bind_registry]
  dsimp only
  by_cases hdef : w.registry.isDefined (String.ofList a.name) = true
  · rw [if_pos (hw.isDefined_resolve.mpr (.inl hdef)), if_pos hdef]
    exact (applyValue_alike (hcall _) o a.value _ w ⟨hw, hdef⟩).1
  · have hundef : ¬ w.registry.isDefined (w.registry.resolve (String.ofList a.name)) = true := by
      rw [hw.isDefined_resolve]
      rintro (hdef' | hchain)
      · exact hdef hdef'
      · exact hfree hchain
    rw [if_neg hundef, if_neg hdef]

/-- A line whose name is chained is applied to the variable behind both aliases. -/
theorem applyLine_of_chained (hw : w.registry.Sound) (h : line.Assigns a)
    (hchain : w.registry.IsChained (String.ofList a.name)) (source : String) (o : Outcome) :
    (applyLine call none source o line).ends w =
      (applyValue call o (w.registry.resolve (String.ofList a.name)) a.value
        (line.place source)).ends w := by
  rw [applyLine_ends h, if_pos (hw.isDefined_resolve.mpr (.inr hchain))]

/-- The problem that is due for an unknown name is never what a line for a variable leaves. -/
theorem applyValue_ne_undefined {o o' : Outcome} {name unknown : String}
    {value : Option (List Char)} {place : Place}
    (h : ((applyValue call o name value place).ends w).1 = .ok o') :
    o' ≠ o.withProblem (.reading (.undefinedVariable unknown) place) := by
  intro hsame
  rcases applyValue_answers call o name value place w o' h with hcount | ⟨v, hrejected⟩
  · rw [hcount] at hsame
    exact o.counted_ne_withProblem _ hsame
  · rw [hrejected] at hsame
    have hproblems := congrArg Outcome.problems hsame
    simp [Outcome.withProblem] at hproblems

/-- Assigning through a name sets the variable that the name stands for, or fails. -/
theorem assign_ends_of_sound {name : String} (v : Value) (hw : w.registry.Sound)
    (hcall : ∀ canonical, CallersAlike (Registry.Owns canonical) call call) :
    (assign call name v).ends w =
      if w.registry.isDefined name then (assignTo call (w.registry.resolve name) v).ends w
      else (.error (.problem (.unknownVariable (w.registry.resolve name))), w) := by
  split
  · rename_i hdef
    have hsame : (assign call name v).ends w =
        (assign call (w.registry.resolve name) v).ends w := by
      rw [assign_ends, assign_ends, hw.find_resolve hdef]
    rw [hsame]
    exact (assign_alike (hcall _) v w ⟨hw, hdef⟩).1
  · rename_i hundef
    have hnone : w.registry.specs.get? (w.registry.resolve name) = none := by
      simpa [Registry.isDefined, Table.contains] using hundef
    rw [assign_ends, Registry.find, hnone]

end Lines

/-- **A line follows an alias once, unless its name is chained.**  Behind any lines of a source,
and whatever the callables of the program do, a line whose name is not chained is applied as if the
name were looked up once, and a program that sets a variable through that name sets the same one or
fails.  A line whose name is chained is one for a variable that no program sets through that name,
and never leaves the problem that is due. -/
theorem line_follows_alias_once_unless_chained (depth : Nat) {w w' : World}
    (hw : Reachable (Callable.call depth) w) (hhook : w.registry.settings.lineParse = none)
    (source : String) {before : List LogicalLine} {o : Outcome}
    (hbefore : (applyLines (Callable.call depth) none source (.fresh source) before).ends w =
      (.ok o, w'))
    {line : LogicalLine} {a : Assignment} (hline : line.Assigns a) :
    let call := Callable.call depth
    let r := w'.registry
    let name := String.ofList a.name
    (∀ v, (assign call name v).ends w' =
      if r.isDefined name then (assignTo call (r.resolve name) v).ends w'
      else (.error (.problem (.unknownVariable (r.resolve name))), w')) ∧
    (¬ r.IsChained name →
      (applyLine call none source o line).ends w' =
        (applyOnce call o a (line.place source)).ends w') ∧
    (r.IsChained name → r.isDefined name = false ∧ r.isDefined (r.resolve name) = true ∧
      (applyLine call none source o line).ends w' =
        (applyValue call o (r.resolve name) a.value (line.place source)).ends w' ∧
      ∀ o', ((applyLine call none source o line).ends w').1 = .ok o' →
        o' ≠ o.withProblem
          (.reading (.undefinedVariable (r.resolve name)) (line.place source))) := by
  intro call r name
  have hcall : ∀ canonical, CallersAlike (Registry.Owns canonical) call call :=
    fun canonical => Callable.call_alike (Registry.owns_stable canonical) depth
  have hreads := (Callable.call_alike Registry.sound_stable depth).hooks.ingests
    Registry.sound_stable.settable
  -- whatever the lines before have done, they leave the registry sound
  have hr : r.Sound := hreads.applyLines_keep hw.sound hhook hbefore
  refine ⟨fun v => assign_ends_of_sound v hr hcall,
    fun hfree => applyLine_of_not_chained hcall hr hline hfree source o, fun hchain => ?_⟩
  have hends : (applyLine call none source o line).ends w' = _ :=
    applyLine_of_chained hr hline hchain source o
  refine ⟨hchain.not_isDefined hr, hr.isDefined_resolve.mpr (.inr hchain), hends, ?_⟩
  rw [hends]
  exact fun o' ho' => applyValue_ne_undefined ho'

/-! ### A session with a chained name -/

/-- A session whose variable `one` has the alias `first`, which has the alias `chained`. -/
def chainedSession : World :=
  let declared := (((Operation.define "one" [(.text "aliases", .text "first")] []).run
    Caller.standard).ends (newSession [])).2
  (((Operation.addAlias "chained" "first").run Caller.standard).ends declared).2

theorem chainedSession_reachable : Reachable Caller.standard chainedSession :=
  ((Reachable.start _ _ _ _).operation _).operation _

theorem chainedSession_unhooked :
    chainedSession.registry.settings.fileParse = none ∧
      chainedSession.registry.settings.lineParse = none :=
  ⟨Option.isNone_iff_eq_none.mp (by decide +kernel),
    Option.isNone_iff_eq_none.mp (by decide +kernel)⟩

theorem chainedSession_isChained : chainedSession.registry.IsChained "chained" :=
  ⟨"one", by decide +kernel, by decide +kernel⟩

/-- The line `chained 5`, behind no other line. -/
theorem chained_line_follows_twice :
    let line : LogicalLine := ⟨1, "chained 5".toList⟩
    let a : Assignment := ⟨"chained".toList, some ['5']⟩
    let o := Outcome.fresh Source.unnamed
    Reachable Caller.standard chainedSession ∧
      chainedSession.registry.settings.lineParse = none ∧ line.Assigns a ∧
      chainedSession.registry.IsChained "chained" ∧
      (applyLine Caller.standard none Source.unnamed o line).ends chainedSession =
        (applyValue Caller.standard o "first" a.value (line.place Source.unnamed)).ends
          chainedSession := by
  intro line a o
  have hline : line.Assigns a := ⟨by decide +kernel, by decide +kernel⟩
  have hname : String.ofList a.name = "chained" := String.ofList_toList
  have hfirst : chainedSession.registry.resolve "chained" = "first" := by decide +kernel
  have hnone : (applyLines Caller.standard none Source.unnamed o []).ends chainedSession =
      (.ok o, chainedSession) := ends_pure _ _
  have hnext := line_follows_alias_once_unless_chained maxCallDepth chainedSession_reachable
    chainedSession_unhooked.2 Source.unnamed hnone hline
  dsimp only at hnext
  rw [hname, hfirst] at hnext
  exact ⟨chainedSession_reachable, chainedSession_unhooked.2, hline, chainedSession_isChained,
    (hnext.2.2 chainedSession_isChained).2.2.1⟩

/-- The line `chained 5` sets the variable `one`, though `chained` is the name of no variable and
the registry has no hook for files and lines. -/
theorem chained_line_sets_variable :
    Reachable Caller.standard chainedSession ∧
      chainedSession.registry.settings.fileParse = none ∧
      chainedSession.registry.settings.lineParse = none ∧
      chainedSession.registry.isDefined "chained" = false ∧
      chainedSession.registry.value? "one" = none ∧
      ((readSource Caller.standard (.lines ["chained 5"])).ends
        chainedSession).2.registry.value? "one" = some (.text "5") := by
  have hbefore : (chainedSession.registry.value? "one").isNone = true := by decide +kernel
  exact ⟨chainedSession_reachable, chainedSession_unhooked.1, chainedSession_unhooked.2,
    by decide +kernel, Option.isNone_iff_eq_none.mp hbefore,
    Value.eq_text_of_any_same (by decide +kernel)⟩

end ConfigVars
