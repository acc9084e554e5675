import ConfigVars.Proofs.Orthography
import ConfigVars.Proofs.Refusal

/-!
# Options that hold names

The options of a declaration may hold names: aliases, and the tokens that set the variable.  Written
in another way they are taken for the same fields, with the same refusals (`accept_like`), and they
make declarations that differ in the writing of the aliases and the triggers only
(`Declaration.ofOptions_like`).

A declaration enters folded names into the tables, so declarations of one variable that are alike
leave registries that are alike, and report problems that are (`Registry.Like.declare`).  Here the
names have to be such that the registries fold them to the same (`Registry.Folds`).
-/

namespace ConfigVars

open FieldReader

variable {same : String → String → Prop}

/-! ### Options that are taken for fields -/

theorem Value.eq_text_of_beq {v : Value} {s : String} (h : (v == .text s) = true) :
    v = .text s := by
  have hequals : v.equals (.text s) = true := h
  cases v with
  | text t =>
    rw [Value.equals] at hequals
    rw [eq_of_beq hequals]
  | callable c => cases c <;> simp [Value.equals] at hequals
  | _ => simp [Value.equals] at hequals

theorem optionLike_iff {o o' : Value × Value} :
    OptionLike same o o' ↔ EntryLike (fun k v v' => OptionLike same (k, v) (k, v')) o o' := by
  refine ⟨fun h => ?_, fun ⟨hkey, h⟩ => ?_⟩
  · cases h with
    | refl _ => exact ⟨rfl, .refl _⟩
    | names hfield hnames hv => exact ⟨rfl, .names hfield hnames hv⟩
  · obtain ⟨k, v⟩ := o
    obtain ⟨k', v'⟩ := o'
    obtain rfl : k = k' := hkey
    exact h

/-- The options of two calls are alike when what the calls are given is. -/
theorem givenOptions_like {options options' : List (Value × Value)}
    {keywords keywords' : List (String × Value)}
    (hoptions : List.Forall₂ (OptionLike same) options options')
    (hkeywords : List.Forall₂ (fun e e' => OptionLike same (.text e.1, e.2) (.text e'.1, e'.2))
      keywords keywords') :
    List.Forall₂ (OptionLike same) (givenOptions options keywords)
      (givenOptions options' keywords') := by
  -- keys that are equal as values need not be the same, but those of options with names are texts
  have hput : ∀ {es es' : List (Value × Value)} {t t' : Table Value Value},
      List.Forall₂ (OptionLike same) es es' →
      t.Like (fun k v v' => OptionLike same (k, v) (k, v')) t' →
      (t.putAll es).Like (fun k v v' => OptionLike same (k, v) (k, v')) (t'.putAll es') := by
    intro es es' t t' hes
    induction hes generalizing t t' with
    | nil => exact id
    | @cons e e' rest rest' he hrest ih =>
      intro ht
      refine ih ?_
      cases he with
      | refl _ => exact ht.put fun _ _ => .refl _
      | @names key field v v' hfield hnames hv =>
        refine ht.put fun k hk => ?_
        obtain rfl : k = .text key := hk.elim id Value.eq_text_of_beq
        exact .names hfield hnames hv
  refine List.Forall₂.imp (fun _ _ => optionLike_iff.mpr) (hput ?_ (hput hoptions .nil))
  exact List.forall₂_map_left_iff.mpr (List.forall₂_map_right_iff.mpr hkeywords)

theorem VariableField.isHook_of_holdsNames {field : VariableField}
    (h : field.holdsNames = true) : VariableField.model.isHook field = false := by
  cases field <;> first | rfl | cases h

theorem OptionModel.isUnusable_of_isHook {φ : Type} [DecidableEq φ] {m : OptionModel φ}
    {field : φ} (h : m.isHook field = false) (v : Value) : m.isUnusable field v = false := by
  cases v <;> simp [OptionModel.isUnusable, h]

/-- Options that are alike are taken for one field, or refused with one problem. -/
theorem accept_like {o o' : Value × Value} (h : OptionLike same o o') :
    VariableField.model.accept o.1 o.2 = VariableField.model.accept o'.1 o'.2 ∧
      ∀ field, VariableField.model.accept o.1 o.2 = .ok field → field.ValueLike same o.2 o'.2 := by
  cases h with
  | refl _ => exact ⟨rfl, fun _ _ => .inl rfl⟩
  | @names key field v v' hfield hnames hv =>
    have haccept : ∀ v, VariableField.model.accept (.text key) v = .ok field := fun v =>
      OptionModel.accept_of_usable hfield
        (OptionModel.isUnusable_of_isHook (VariableField.isHook_of_holdsNames hnames) v)
    refine ⟨(haccept v).trans (haccept v').symm, fun field' hfield' => ?_⟩
    rw [haccept v] at hfield'
    cases hfield'
    exact .inr ⟨hnames, hv⟩

/-- Options that are alike have the same refusals, and give alike values to their fields. -/
theorem accepted_like {os os' : List (Value × Value)}
    (h : List.Forall₂ (OptionLike same) os os') :
    VariableField.model.refusals os = VariableField.model.refusals os' ∧
      List.Forall₂ (EntryLike fun field => field.ValueLike same)
        (VariableField.model.accepted os) (VariableField.model.accepted os') := by
  induction h with
  | nil => exact ⟨rfl, .nil⟩
  | @cons o o' rest rest' ho hrest ih =>
    obtain ⟨hrefusals, haccepted⟩ := ih
    obtain ⟨hsame, hvalue⟩ := accept_like ho
    rw [OptionModel.refusals, OptionModel.refusals, OptionModel.accepted, OptionModel.accepted,
      List.filterMap_cons, List.filterMap_cons, List.filterMap_cons, List.filterMap_cons, ← hsame]
    cases haccept : VariableField.model.accept o.1 o.2 with
    | ok field => exact ⟨hrefusals, .cons ⟨rfl, hvalue field haccept⟩ haccepted⟩
    | error p => exact ⟨congrArg (p :: ·) hrefusals, haccepted⟩

/-! ### Fields that hold names -/

/-- What a reader makes of two values: the same up to names, or the same rejections. -/
def ReadsLike {α : Type} (S : α → α → Prop) : Except (List Rejection) α →
    Except (List Rejection) α → Prop
  | .ok x, .ok x' => S x x'
  | .error here, .error here' => here = here'
  | _, _ => False

theorem ReadsLike.refl {α : Type} {S : α → α → Prop} (h : ∀ x, S x x)
    (read : Except (List Rejection) α) : ReadsLike S read read := by
  cases read with
  | ok x => exact h x
  | error here => rfl

theorem items_like (hsame : Orthography same) {vs vs' : List Value}
    (h : List.Forall₂ (Value.TextLike same) vs vs') (index : Nat) :
    ReadsLike (List.Forall₂ same) (items FieldReader.text index vs)
      (items FieldReader.text index vs') := by
  induction h generalizing index with
  | nil => exact .nil
  | @cons v v' rest rest' hv hrest ih =>
    have hrest' := ih (index + 1)
    rw [items, items]
    generalize items FieldReader.text (index + 1) rest = more at hrest'
    generalize items FieldReader.text (index + 1) rest' = more' at hrest'
    cases hv with
    | refl v =>
      cases FieldReader.text v <;> cases more <;> cases more' <;>
        simp_all [ReadsLike, hsame.refl]
    | text hs => cases more <;> cases more' <;> simp_all [ReadsLike, FieldReader.text]

theorem readTexts_like (hsame : Orthography same) {v v' : Value} (h : v.TextsLike same v') :
    ReadsLike (List.Forall₂ same) (VariableSpec.readTexts v) (VariableSpec.readTexts v') := by
  cases h with
  | one h =>
    cases h with
    | refl v => exact .refl (forall₂_refl hsame.refl) _
    | text hs => exact .cons hs .nil
  | list h => exact items_like hsame h 0
  | tuple h => exact items_like hsame h 0

theorem readTriggers_like (hsame : Orthography same) {v v' : Value} (h : v.TextsLike same v') :
    ReadsLike (Triggers.Like same) (VariableSpec.readTriggers v)
      (VariableSpec.readTriggers v') := by
  have htokens : ∀ {x x' : Except (List Rejection) (List String)},
      ReadsLike (List.Forall₂ same) x x' →
        ReadsLike (Triggers.Like same) (x.map .tokens) (x'.map .tokens) := by
    intro x x' hx
    cases x <;> cases x' <;> first | exact .tokens hx | exact hx
  cases h with
  | one h =>
    cases h with
    | refl v => exact .refl (.refl hsame) _
    | text hs => exact .tokens (.cons hs .nil)
  | list h => exact htokens (items_like hsame h 0)
  | tuple h => exact htokens (items_like hsame h 0)

/-! ### Declarations -/

section Build

variable {t t' : Table VariableField Value}

/-- A field that holds no names has one value in tables that are alike. -/
theorem get?_eq_of_like (h : t.Like (fun field => field.ValueLike same) t') {f : VariableField}
    (hf : f.holdsNames = false) : t.get? f = t'.get? f := by
  have hget := h.get? f
  generalize t.get? f = v at hget ⊢
  generalize t'.get? f = v' at hget ⊢
  cases hget with
  | none => rfl
  | some hv =>
    rcases hv with rfl | ⟨hnames, -⟩
    · rfl
    · rw [hf] at hnames
      cases hnames

/-- A field that holds names is read alike, and with the same problems. -/
theorem field_like {α : Type} {S : α → α → Prop} {read : FieldReader α} {f : VariableField}
    (hrefl : ∀ x, S x x)
    (hread : ∀ {v v' : Value}, v.TextsLike same v' → ReadsLike S (read v) (read v'))
    (h : t.Like (fun field => field.ValueLike same) t') :
    Option.Rel S (VariableSpec.field t f read).1 (VariableSpec.field t' f read).1 ∧
      (VariableSpec.field t f read).2 = (VariableSpec.field t' f read).2 := by
  have hget := h.get? f
  rw [VariableSpec.field, VariableSpec.field]
  generalize t.get? f = v at hget
  generalize t'.get? f = v' at hget
  cases hget with
  | none => exact ⟨.none, rfl⟩
  | @some v v' hv =>
    have hreads : ReadsLike S (read v) (read v') := by
      rcases hv with rfl | ⟨-, hv⟩
      · exact .refl hrefl _
      · exact hread hv
    dsimp only
    generalize read v = x at hreads
    generalize read v' = x' at hreads
    cases x <;> cases x'
    · cases hreads
      exact ⟨.none, rfl⟩
    · cases hreads
    · cases hreads
    · exact ⟨.some hreads, rfl⟩

theorem getD_like {α : Type} {S : α → α → Prop} {x x' : Option α} (h : Option.Rel S x x') {d : α}
    (hd : S d d) : S (x.getD d) (x'.getD d) := by
  cases h with
  | none => exact hd
  | some h => exact h

/-- **Options by field that are alike make specifications that are**, with the same problems. -/
theorem build_like (hsame : Orthography same)
    (h : t.Like (fun field => field.ValueLike same) t') :
    (VariableSpec.build t).1.Like same (VariableSpec.build t').1 ∧
      (VariableSpec.build t).2 = (VariableSpec.build t').2 := by
  have hfield : ∀ {α : Type} (read : FieldReader α) (f : VariableField), f.holdsNames = false →
      VariableSpec.field t f read = VariableSpec.field t' f read := fun read f hf =>
    VariableSpec.field_congr read (get?_eq_of_like h hf)
  have haliases := field_like (f := .aliases) (forall₂_refl hsame.refl) (readTexts_like hsame) h
  have htriggers := field_like (f := .triggers) (.refl hsame) (readTriggers_like hsame) h
  constructor
  · simp only [VariableSpec.build, hfield _ .argumentRequired rfl, hfield _ .expand rfl,
      hfield _ .onChange rfl, get?_eq_of_like h (f := .default) rfl,
      get?_eq_of_like h (f := .validator) rfl]
    exact ⟨rfl, rfl, rfl, rfl, rfl, getD_like haliases.1 .nil,
      getD_like htriggers.1 (.tokens .nil)⟩
  · simp only [VariableSpec.build, hfield _ .argumentRequired rfl, hfield _ .expand rfl,
      hfield _ .onChange rfl, haliases.2, htriggers.2]

end Build

/-- **Options that are alike make declarations that are**, or fail alike. -/
theorem Declaration.ofOptions_like (hsame : Orthography same) (globals : Table VariableField Value)
    {options options' : List (Value × Value)}
    (h : List.Forall₂ (OptionLike same) options options') :
    (∃ f, ofOptions globals options = .error f ∧ ofOptions globals options' = .error f) ∨
      ∃ d d', ofOptions globals options = .ok d ∧ ofOptions globals options' = .ok d' ∧
        d.spec.Like same d'.spec ∧ d.validator = d'.validator ∧ d.problems = d'.problems := by
  obtain ⟨hrefusals, haccepted⟩ := accepted_like h
  rw [ofOptions_eq, ofOptions_eq, OptionModel.canonical_eq, OptionModel.canonical_eq, ← hrefusals]
  -- the values of fields without names are the same, that of the validator among them
  have hmerged : (globals.overlay (Table.ofList (VariableField.model.accepted options))).Like
      (fun field => field.ValueLike same)
      (globals.overlay (Table.ofList (VariableField.model.accepted options'))) := by
    have hempty : (∅ : Table VariableField Value).Like
        (fun field => field.ValueLike same) ∅ := .nil
    exact (Table.Like.refl (fun _ _ => .inl rfl) globals).putAll (hempty.putAll haccepted)
  generalize globals.overlay (Table.ofList (VariableField.model.accepted options)) = t at hmerged
  generalize globals.overlay (Table.ofList (VariableField.model.accepted options')) = t' at hmerged
  rw [make, make, ← get?_eq_of_like hmerged (f := .validator) rfl]
  cases judge (t.get? .validator) with
  | error f => exact .inl ⟨f, rfl, rfl⟩
  | ok verdict =>
    obtain ⟨validator, p?⟩ := verdict
    have hleft : (leaving t p?).Like (fun field => field.ValueLike same) (leaving t' p?) := by
      unfold leaving
      split
      · exact hmerged.erase _
      · exact hmerged
    obtain ⟨hspec, hproblems⟩ := build_like hsame hleft
    exact .inr ⟨_, _, rfl, rfl, hspec, rfl, by simp only [hproblems]⟩

/-! ### Registries -/

/-- A registry folds the writings of one name to one. -/
def Registry.Folds (same : String → String → Prop) (r : Registry) : Prop :=
  ∀ s s', same s s' → r.fold s = r.fold s'

namespace Registry

variable {r r' : Registry} {name name' : String}

theorem Like.fold_eq (h : r.Like same r') (s : String) : r'.fold s = r.fold s := by
  obtain ⟨error, hsettings⟩ := h.settings_eq
  rw [fold, fold, hsettings]

theorem Like.fold_same (h : r.Like same r') (hfolds : r.Folds same) {s s' : String}
    (hs : same s s') : r'.fold s' = r.fold s := (h.fold_eq s').trans (hfolds s s' hs).symm

theorem Like.addAliases (h : r.Like same r') (hfolds : r.Folds same) (canonical : String)
    {names names' : List String} (hnames : List.Forall₂ same names names') :
    (r.addAliases canonical names).1.Like same (r'.addAliases canonical names').1 ∧
      List.Forall₂ (Problem.Like same) (r.addAliases canonical names).2
        (r'.addAliases canonical names').2 := by
  induction hnames generalizing r r' with
  | nil => exact ⟨h, .nil⟩
  | @cons s s' rest rest' hs hrest ih =>
    rw [Registry.addAliases, Registry.addAliases, h.fold_same hfolds hs, ← h.specs.contains]
    split
    · obtain ⟨hlike, hproblems⟩ := ih h hfolds
      exact ⟨hlike, .cons (.option hs _) hproblems⟩
    · refine ih ?_ hfolds
      exact { h with aliases_eq := congrArg (·.put (r.fold s) canonical) h.aliases_eq }

theorem Like.addTriggers (h : r.Like same r') (hfolds : r.Folds same) (canonical : String)
    {tokens tokens' : List String} (htokens : List.Forall₂ same tokens tokens') :
    (r.addTriggers canonical tokens).Like same (r'.addTriggers canonical tokens') := by
  have hentries : tokens.map (fun t => (r.fold t, canonical)) =
      tokens'.map fun t => (r'.fold t, canonical) := by
    induction htokens with
    | nil => rfl
    | cons hs _ ih => rw [List.map_cons, List.map_cons, ih, h.fold_same hfolds hs]
  exact { h with
    triggers_eq := by
      dsimp only [Registry.addTriggers]
      rw [hentries, h.triggers_eq] }

theorem triggerTokens_like (hsame : Orthography same) {spec spec' : VariableSpec}
    (hspec : spec.Like same spec') (hname : same name name') :
    List.Forall₂ same (spec.triggerTokens name) (spec'.triggerTokens name') := by
  have htriggers := hspec.triggers
  rw [VariableSpec.triggerTokens, VariableSpec.triggerTokens]
  generalize spec.triggers = ts at htriggers
  generalize spec'.triggers = ts' at htriggers
  cases htriggers with
  | generated on =>
    cases on with
    | false => exact .nil
    | true =>
      have hnames : List.Forall₂ same (name :: spec.aliases) (name' :: spec'.aliases) :=
        .cons hname hspec.aliases
      exact List.forall₂_map_left_iff.mpr (List.forall₂_map_right_iff.mpr
        (hnames.imp fun _ _ => hsame.dash))
  | tokens h => exact h

/-- A declaration that is entered, before its aliases and triggers are. -/
theorem Like.entered (h : r.Like same r') (canonical : String) {spec spec' : VariableSpec}
    (hspec : spec.Like same spec') (validators : Table String Validator) :
    Registry.Like same
      { r with
        aliases := r.aliases.erase canonical, specs := r.specs.put canonical spec
        values := r.values.put canonical .undefined, validators }
      { r' with
        aliases := r.aliases.erase canonical, specs := r'.specs.put canonical spec'
        values := r.values.put canonical .undefined, validators } :=
  ⟨h.settings_eq, h.globals_eq, h.specs.put fun _ _ => hspec, rfl, rfl, rfl, h.triggers_eq,
    h.environment_eq⟩

/-- **Declarations that are alike leave registries that are**, and report problems that are. -/
theorem Like.declare (hsame : Orthography same) (h : r.Like same r') (hfolds : r.Folds same)
    (hname : same name name') {d d' : Declaration} (hspec : d.spec.Like same d'.spec)
    (hvalidator : d.validator = d'.validator) :
    (r.declare name d).1.Like same (r'.declare name' d').1 ∧
      List.Forall₂ (Problem.Like same) (r.declare name d).2 (r'.declare name' d').2 := by
  have hnamed := fun validators =>
    (h.entered (r.fold name) hspec validators).addAliases hfolds (r.fold name) hspec.aliases
  rw [Registry.declare, Registry.declare, h.fold_same hfolds hname, ← hvalidator, ← h.aliases_eq,
    ← h.values_eq, ← h.validators_eq]
  refine ⟨(hnamed _).1.addTriggers ?_ _ (triggerTokens_like hsame hspec hname), (hnamed _).2⟩
  intro s s' hs
  rw [fold, fold, addAliases_fst]
  exact hfolds s s' hs

end Registry

end ConfigVars
