import ConfigVars.Proofs.Declaring

/-!
# Declaring a variable again

A declaration gives its variable a specification, a validator and its default, and leads aliases and
triggers to it (`Registry.introduce`).

* `Registry.DiffersAt`: two registries are the same apart from one variable and from the names that
  lead to it.  Every other variable keeps its entries and its place, and of the aliases only the
  name of the variable itself is gone.
* `Registry.introduce_declare`: where a variable has been introduced, the same declaration leaves
  the tables that it has left before, in the same order, and finds the same aliases taken.

So a declaration that returns touches its own variable only, and the same declaration behind it
reports the same problems and changes nothing (`define_touches_one_variable`).
-/

namespace ConfigVars

open Run

/-! ### Entries that are there already -/

namespace Table

variable {κ : Type u} {α : Type v} [BEq κ] [LawfulBEq κ]

/-- Of two values that are put under one key, the second one counts. -/
theorem put_put (t : Table κ α) (k : κ) (v v' : α) : (t.put k v).put k v' = t.put k v' := by
  obtain ⟨es⟩ := t
  simp only [put, mk.injEq]
  induction es with
  | nil => simp [putIn]
  | cons e rest ih =>
    obtain ⟨a, b⟩ := e
    by_cases ha : a = k
    · simp [putIn, ha]
    · simp [putIn, ha, ih]

theorem keys_putAll (t : Table κ α) (entries : List (κ × α)) :
    ∃ new, (t.putAll entries).keys = t.keys ++ new := by
  induction entries generalizing t with
  | nil => exact ⟨[], (List.append_nil _).symm⟩
  | cons e rest ih =>
    obtain ⟨new, hnew⟩ := ih (t.put e.1 e.2)
    have hstep : t.putAll (e :: rest) = (t.put e.1 e.2).putAll rest := rfl
    rw [hstep, hnew, keys_put]
    split
    · exact ⟨new, rfl⟩
    · exact ⟨e.1 :: new, by rw [List.append_assoc, List.singleton_append]⟩

/-- A table of names leads some more of them, or some otherwise than before, to one target.  Every
other name keeps its target and its place. -/
structure LedTo (t : Table String String) (target : String) (t' : Table String String) :
    Prop where
  places : ∃ new, t'.keys = t.keys ++ new
  leads : ∀ name, t'.get? name = t.get? name ∨ t'.get? name = some target

theorem ledTo_putAll_map {ι : Type} (t : Table String String) (target : String) (f : ι → String)
    (xs : List ι) : t.LedTo target (t.putAll (xs.map fun x => (f x, target))) where
  places := keys_putAll t _
  leads name := by
    rw [get?_putAll_map]
    by_cases h : name ∈ xs.map f
    · exact .inr (if_pos h)
    · exact .inl (if_neg h)

end Table

attribute [ext] Registry

namespace Registry

variable (r : Registry) (name : String) (d : Declaration)

/-! ### What a declaration introduces -/

/-- The registry behind a declaration of a variable, which then has its default. -/
def introduce : Registry :=
  { (r.declare name d).1 with
    values := (r.declare name d).1.values.put (r.fold name) d.spec.default.toStored }

/-- The registries differ at most in one variable and in what leads to it. -/
structure DiffersAt (r : Registry) (c : String) (r' : Registry) : Prop where
  settings : r'.settings = r.settings
  globals : r'.globals = r.globals
  environment : r'.environment = r.environment
  /-- The variable stays in its place, or it comes last. -/
  names : r'.names = if r.specs.contains c then r.names else r.names ++ [c]
  specs : ∀ other, other ≠ c → r'.specs.get? other = r.specs.get? other
  validators : ∀ other, other ≠ c → r'.validators.get? other = r.validators.get? other
  values : ∀ other, other ≠ c → r'.values.get? other = r.values.get? other
  /-- What is erased is an alias that is spelled like the variable. -/
  aliases : (r.aliases.erase c).LedTo c r'.aliases
  triggers : r.triggers.LedTo c r'.triggers

theorem introduce_eq :
    r.introduce name d =
      { (r.declare name d).1 with
        values := r.values.put (r.fold name) d.spec.default.toStored } := by
  rw [introduce, declare_values, Table.put_put]

@[simp] theorem introduce_settings : (r.introduce name d).settings = r.settings :=
  declare_settings r name d

@[simp] theorem introduce_globals : (r.introduce name d).globals = r.globals :=
  declare_globals r name d

@[simp] theorem introduce_specs :
    (r.introduce name d).specs = r.specs.put (r.fold name) d.spec :=
  declare_specs r name d

@[simp] theorem introduce_values :
    (r.introduce name d).values = r.values.put (r.fold name) d.spec.default.toStored := by
  rw [introduce_eq]

/-- **An introduction changes its own variable**, and what leads to it. -/
theorem introduce_differsAt : r.DiffersAt (r.fold name) (r.introduce name d) where
  settings := introduce_settings r name d
  globals := introduce_globals r name d
  environment := by
    rw [introduce, declare_eq]
  names := by
    rw [names, introduce_specs]
    exact Table.keys_put _ _ _
  specs other hother := by
    rw [introduce_specs, Table.get?_put, if_neg hother]
  validators other hother := by
    rw [introduce, declare_validators_get?, if_neg hother]
  values other hother := by
    rw [introduce_values, Table.get?_put, if_neg hother]
  aliases := by
    rw [introduce, declare_eq]
    exact Table.ledTo_putAll_map _ _ _ _
  triggers := by
    rw [introduce, declare_eq]
    exact Table.ledTo_putAll_map _ _ _ _

/-! ### The same declaration again -/

end Registry

namespace Registry.Sound

variable {r : Registry} {d : Declaration}

/-- **An introduction keeps a registry sound.** -/
theorem introduce (h : r.Sound) (name : String) (hcompiles : d.spec.Compiles d.validator) :
    (r.introduce name d).Sound := by
  refine (h.declare name hcompiles).assign ?_ _
  rw [declare_specs, Table.contains_put]
  simp

end Registry.Sound

/-! ### The run of a declaration -/

/-- The hook of a variable, if it has one, neither fails nor touches the registry when it is called
with the default. -/
def VariableSpec.IdleHook (call : Caller) (r : Registry) (c : String) (spec : VariableSpec) :
    Prop :=
  ∀ hook, spec.onChange = some hook → ∀ w : World, w.registry = r →
    ∃ reply w', (call hook true [.text c, spec.default.toGiven]).ends w = (.ok reply, w') ∧
      w'.registry = r

/-- An observation of what the error sink is told, to which the hook of a variable adds nothing. -/
def VariableSpec.UnheardHook (call : Caller) (c : String) (spec : VariableSpec)
    (told : World → List Problem) : Prop :=
  ∀ hook, spec.onChange = some hook → ∀ w : World,
    told ((call hook true [.text c, spec.default.toGiven]).ends w).2 = told w

section Enter

variable {call : Caller} {P Q : Registry → Prop} {told : World → List Problem} {w : World}
  {name : String} {d : Declaration}

theorem Listens.mono (h : Listens call Q told) (hPQ : ∀ r, P r → Q r) : Listens call P told where
  report p w hw := h.report p w (hPQ _ hw)
  elsewhere := h.elsewhere
  detail := h.detail

/-- A variable that is found is reset by storing its default and calling its hook. -/
theorem reset_ends_idle {c : String} {spec : VariableSpec}
    (hfind : w.registry.find c = .ok (c, spec))
    (hhook : spec.IdleHook call
      { w.registry with values := w.registry.values.put c spec.default.toStored } c) :
    ∃ answer w', (reset call c).ends w = (.ok answer, w') ∧
      w'.registry =
        { w.registry with values := w.registry.values.put c spec.default.toStored } ∧
      ∀ told, (∀ (v : World) registry, told { v with registry } = told v) →
        spec.UnheardHook call c told → told w' = told w := by
  rw [reset_ends, hfind]
  dsimp only
  rw [assign_ends, hfind]
  dsimp only
  cases honChange : spec.onChange with
  | none => exact ⟨_, _, rfl, rfl, fun told helsewhere _ => helsewhere _ _⟩
  | some hook =>
    obtain ⟨reply, w', hends, hsame⟩ := hhook hook honChange { w with registry := _ } rfl
    refine ⟨reply.answer, w', ?_, hsame, fun told helsewhere hunheard => ?_⟩
    · dsimp only
      rw [ends_bind, hends]
      rfl
    · have hquiet := hunheard hook honChange { w with registry :=
        { w.registry with values := w.registry.values.put c spec.default.toStored } }
      rw [hends] at hquiet
      exact hquiet.trans (helsewhere _ _)

/-- **A declaration that is entered introduces its variable**, and its problems are reported, the
aliases that are names of variables behind the others. -/
theorem enter_introduces (hr : w.registry.Sound) (hcompiles : d.spec.Compiles d.validator)
    (hsink : w.registry.settings.IdleSink call)
    (hhook : d.spec.IdleHook call (w.registry.introduce name d) (w.registry.fold name)) :
    ∃ w', (enter call name d).ends w = (.ok (w.registry.fold name), w') ∧
      w'.registry = w.registry.introduce name d ∧
      ∀ told, Listens call (fun r => r = (w.registry.declare name d).1) told →
        d.spec.UnheardHook call (w.registry.fold name) told →
          told w' = told w ++ (d.problems ++ (w.registry.declare name d).2) := by
  have hanswers : SinkAnswers call fun r => r = (w.registry.declare name d).1 :=
    hsink.answers fun r hr' => by rw [hr', Registry.declare_settings]
  obtain ⟨w₁, hreports, hentered, htold⟩ := hanswers.reportAll_ends
    (w := { w with registry := (w.registry.declare name d).1 }) rfl
    (d.problems ++ (w.registry.declare name d).2)
  obtain ⟨w₂, hdetail, hsame, hunheard⟩ := detail_ends_unheard call
    (fun r => r = (w.registry.declare name d).1)
    ("Defined variable " ++ Text.quoted (w.registry.fold name) ++ " (aliases=" ++
      shownTexts d.spec.aliases ++ ", triggers=" ++ shownTexts (d.spec.triggerTokens name) ++ ")")
    w₁
  have hregistry : w₂.registry = (w.registry.declare name d).1 := hsame.trans hentered
  have hspec : w₂.registry.specs.get? (w.registry.fold name) = some d.spec := by
    rw [hregistry, Registry.declare_specs, Table.get?_put, if_pos rfl]
  have hsound : w₂.registry.Sound := hregistry ▸ hr.declare name hcompiles
  have hintroduced : { w₂.registry with
      values := w₂.registry.values.put (w.registry.fold name) d.spec.default.toStored } =
      w.registry.introduce name d := by
    rw [hregistry]
    rfl
  obtain ⟨answer, w', hreset, hset, hquiet⟩ :=
    reset_ends_idle (hsound.find_of_get? hspec) (hintroduced.symm ▸ hhook)
  refine ⟨w', ?_, hset.trans hintroduced, fun told hlistens hsilent => ?_⟩
  · have hupdate : (update fun r => (r.declare name d).1).ends w =
        (.ok (), { w with registry := (w.registry.declare name d).1 }) := rfl
    rw [enter, ends_bind_registry, ends_bind, hupdate]
    dsimp only
    rw [ends_bind, hreports]
    dsimp only
    rw [ends_bind, hdetail]
    dsimp only
    rw [ends_bind, hreset]
    rfl
  · rw [hquiet told hlistens.elsewhere hsilent, hunheard told hlistens, htold told hlistens,
      hlistens.elsewhere]

/-- **A call that makes a declaration introduces its variable.** -/
theorem define_introduces {options : List (Value × Value)} {keywords : List (String × Value)}
    (hr : w.registry.Sound)
    (hmade : Declaration.ofOptions w.registry.globals (givenOptions options keywords) = .ok d)
    (hsink : w.registry.settings.IdleSink call)
    (hhook : d.spec.IdleHook call (w.registry.introduce name d) (w.registry.fold name)) :
    ∃ w', (define call name options keywords).ends w = (.ok (w.registry.fold name), w') ∧
      w'.registry = w.registry.introduce name d ∧
      ∀ told, Listens call (fun r => r.settings = w.registry.settings) told →
        d.spec.UnheardHook call (w.registry.fold name) told →
          told w' = told w ++ (d.problems ++ (w.registry.declare name d).2) := by
  obtain ⟨w', henter, hintroduced, htold⟩ :=
    enter_introduces hr (Declaration.compiles hmade) hsink hhook
  refine ⟨w', ?_, hintroduced, fun told hlistens => htold told (hlistens.mono fun r hr' => ?_)⟩
  · rw [define_enters, hmade]
    exact henter
  · rw [hr', Registry.declare_settings]

end Enter

theorem ends_of_answer {α : Type} {x : Run α} {a : α} {w : World}
    (h : (x.ends w).1.toOption = some a) : x.ends w = (.ok a, (x.ends w).2) := by
  rcases hx : x.ends w with ⟨_ | b, w'⟩
  · rw [hx] at h
    cases h
  · rw [hx] at h
    cases h
    rfl

end ConfigVars
