import ConfigVars.Proofs.NamedOptions
import ConfigVars.Proofs.Redeclaring

/-!
# Which option counts

A field of a variable may be named by the keywords of a call, by its mapping, and by the options of
the registry, each in several spellings.  The keywords are put over the mapping key by key, and only
then the keys are taken for fields: a keyword stands where the mapping has its very key, or else
behind the mapping (`Table.entries_putAll`).

So the keywords go above the mapping, with one exception.  A keyword that repeats a key of the
mapping stands in the place of that key, and another spelling behind it in the mapping comes out on
top (`Overtaken`).  Apart from this, a field has its value from the keywords if one of them names
it, else from the mapping, else from the options of the registry, and else it is at its default
(`keyword_counts_unless_overtaken`).
-/

namespace ConfigVars

open Run

/-! ### Entries that are put over others -/

namespace Table

variable {κ : Type u} {α : Type v}

/-- Entries that are put over others: an entry that is there has its value replaced where its key
comes again, and what has other keys comes behind. -/
structure PutOver (below above : List (κ × α)) (g : κ × α → κ × α) (fresh : List (κ × α)) :
    Prop where
  fst : ∀ e ∈ below, (g e).1 = e.1
  replaced : ∀ e ∈ below, e.1 ∈ above.map Prod.fst → g e ∈ above
  kept : ∀ e ∈ below, e.1 ∉ above.map Prod.fst → g e = e
  behind : ∀ e ∈ fresh, e ∈ above ∧ e.1 ∉ below.map Prod.fst
  covers : ∀ o ∈ above, o.1 ∉ below.map Prod.fst → o.1 ∈ fresh.map Prod.fst

variable {below rest fresh : List (κ × α)} {o : κ × α} {g : κ × α → κ × α}

theorem PutOver.append (hnew : o.1 ∉ below.map Prod.fst)
    (h : PutOver (below ++ [o]) rest g fresh) : PutOver below (o :: rest) g (g o :: fresh) := by
  have hold : ∀ e ∈ below, e ∈ below ++ [o] := fun e he => List.mem_append_left _ he
  have hlast : o ∈ below ++ [o] := List.mem_append_right _ List.mem_cons_self
  have hne : ∀ e ∈ below, e.1 ≠ o.1 := fun e he heq => hnew (heq ▸ List.mem_map_of_mem he)
  refine ⟨fun e he => h.fst e (hold e he), fun e he habove => ?_, fun e he habove => ?_,
    fun e he => ?_, fun o' ho' ho'new => ?_⟩
  · have hrest := (List.mem_cons.mp habove).resolve_left (hne e he)
    exact List.mem_cons_of_mem o (h.replaced e (hold e he) hrest)
  · exact h.kept e (hold e he) fun hrest => habove (List.mem_cons_of_mem o.1 hrest)
  · rcases List.mem_cons.mp he with rfl | he
    · refine ⟨?_, h.fst o hlast ▸ hnew⟩
      by_cases hrest : o.1 ∈ rest.map Prod.fst
      · exact List.mem_cons_of_mem o (h.replaced o hlast hrest)
      · rw [h.kept o hlast hrest]
        exact List.mem_cons_self
    · obtain ⟨habove, hfresh⟩ := h.behind e he
      rw [List.map_append, List.mem_append, not_or] at hfresh
      exact ⟨List.mem_cons_of_mem o habove, hfresh.1⟩
  · rw [List.map_cons, h.fst o hlast]
    by_cases hsame : o'.1 = o.1
    · exact hsame ▸ List.mem_cons_self
    · have hrest : o' ∈ rest := (List.mem_cons.mp ho').resolve_left fun heq => hsame (heq ▸ rfl)
      refine List.mem_cons_of_mem _ (h.covers o' hrest ?_)
      simp [ho'new, hsame]

variable [BEq κ]

/-- A key that is equal to no key but itself. -/
def Sharp (k : κ) : Prop := ∀ k', (k' == k) = true ↔ k' = k

theorem Distinct.nodup {entries : List (κ × α)} (h : Distinct entries)
    (hsharp : ∀ e ∈ entries, Sharp e.1) : entries.Nodup := by
  refine List.Pairwise.imp_of_mem (fun {e e'} he _ hkeys => ?_) h
  rintro rfl
  rw [(hsharp e he e.1).mpr rfl] at hkeys
  cases hkeys

/-- A value that is put under a key that is there replaces the one in its place. -/
theorem putIn_of_mem {k : κ} (v : α) {entries : List (κ × α)} (hsharp : Sharp k)
    (hdistinct : Distinct entries) (hmem : k ∈ entries.map Prod.fst) :
    putIn k v entries = entries.map fun e => if e.1 == k then (e.1, v) else e := by
  induction entries with
  | nil => cases hmem
  | cons e rest ih =>
    obtain ⟨hhead, hrest⟩ := List.pairwise_cons.mp hdistinct
    rw [putIn, List.map_cons]
    by_cases hk : (e.1 == k) = true
    · -- the key does not come again
      have hothers : ∀ e' ∈ rest, ¬ (e'.1 == k) = true := fun e' he' hk' => by
        have hsame := hhead e' he'
        rw [(hsharp _).mp hk, (hsharp _).mp hk', (hsharp k).mpr rfl] at hsame
        cases hsame
      have hkept : (rest.map fun e => if e.1 == k then (e.1, v) else e) = rest := by
        refine (List.map_congr_left fun e' he' => ?_).trans (List.map_id rest)
        rw [if_neg (hothers e' he')]
        rfl
      rw [if_pos hk, if_pos hk, hkept]
    · rw [if_neg hk, if_neg hk]
      rcases List.mem_cons.mp hmem with heq | hmem
      · exact absurd ((hsharp _).mpr heq.symm) hk
      · rw [ih hrest hmem]

/-- The entry with the value that is put over it, if it has the key. -/
def overwritten (o e : κ × α) : κ × α := if e.1 == o.1 then (e.1, o.2) else e

theorem overwritten_fst (o e : κ × α) : (overwritten o e).1 = e.1 := by
  unfold overwritten
  split <;> rfl

theorem overwritten_of_ne (hkey : Sharp o.1) {e : κ × α} (h : e.1 ≠ o.1) :
    overwritten o e = e := by
  rw [overwritten, if_neg fun hk => h ((hkey _).mp hk)]

theorem overwritten_of_eq (hkey : Sharp o.1) {e : κ × α} (h : e.1 = o.1) :
    overwritten o e = o := by
  rw [overwritten, if_pos ((hkey _).mpr h), h]

theorem PutOver.replace (hkey : Sharp o.1) (hmem : o.1 ∈ below.map Prod.fst)
    (h : PutOver (below.map (overwritten o)) rest g fresh) :
    PutOver below (o :: rest) (g ∘ overwritten o) fresh := by
  have hkeys : (below.map (overwritten o)).map Prod.fst = below.map Prod.fst := by
    rw [List.map_map]
    exact List.map_congr_left fun e _ => overwritten_fst o e
  have hold : ∀ e ∈ below, overwritten o e ∈ below.map (overwritten o) := fun e he =>
    List.mem_map_of_mem he
  refine ⟨fun e he => ?_, fun e he habove => ?_, fun e he habove => ?_, fun e he => ?_,
    fun o' ho' hnew => ?_⟩
  · exact (h.fst _ (hold e he)).trans (overwritten_fst o e)
  · by_cases hrest : e.1 ∈ rest.map Prod.fst
    · exact List.mem_cons_of_mem o (h.replaced _ (hold e he) (overwritten_fst o e ▸ hrest))
    · -- the key does not come again behind the first entry
      have heq : e.1 = o.1 := (List.mem_cons.mp habove).resolve_right hrest
      rw [Function.comp_apply, h.kept _ (hold e he) (overwritten_fst o e ▸ hrest),
        overwritten_of_eq hkey heq]
      exact List.mem_cons_self
  · rw [List.map_cons, List.mem_cons, not_or] at habove
    rw [Function.comp_apply, h.kept _ (hold e he) (overwritten_fst o e ▸ habove.2),
      overwritten_of_ne hkey habove.1]
  · obtain ⟨habove, hnew⟩ := h.behind e he
    exact ⟨List.mem_cons_of_mem o habove, hkeys ▸ hnew⟩
  · rcases List.mem_cons.mp ho' with rfl | ho'
    · exact absurd hmem hnew
    · exact h.covers o' ho' (hkeys ▸ hnew)

/-- **Entries that are put over others** stand in the places of the keys that are there, and those
with other keys come behind. -/
theorem entries_putAll {t : Table κ α} {above : List (κ × α)} (hdistinct : Distinct t.entries)
    (hsharp : ∀ o ∈ above, Sharp o.1) :
    ∃ g fresh, (t.putAll above).entries = t.entries.map g ++ fresh ∧
      PutOver t.entries above g fresh := by
  induction above generalizing t with
  | nil => exact ⟨id, [], by simp [putAll], by constructor <;> simp⟩
  | cons o rest ih =>
    have hkey : Sharp o.1 := hsharp o List.mem_cons_self
    obtain ⟨g, fresh, hentries, hover⟩ := ih (t := t.put o.1 o.2) (hdistinct.putIn o.1 o.2)
      fun o' ho' => hsharp o' (List.mem_cons_of_mem o ho')
    have hstep : (t.putAll (o :: rest)).entries = _ := hentries
    by_cases hmem : o.1 ∈ t.entries.map Prod.fst
    · have hput : (t.put o.1 o.2).entries = t.entries.map (overwritten o) :=
        putIn_of_mem o.2 hkey hdistinct hmem
      rw [hput] at hstep hover
      exact ⟨g ∘ overwritten o, fresh, hstep.trans (by rw [List.map_map]),
        hover.replace hkey hmem⟩
    · have hput : (t.put o.1 o.2).entries = t.entries ++ [o] :=
        putIn_of_new o.2 fun e he => Bool.eq_false_iff.mpr fun hk =>
          hmem ((hkey _).mp hk ▸ List.mem_map_of_mem he)
      rw [hput] at hstep hover
      exact ⟨g, g o :: fresh, hstep.trans (by simp), hover.append hmem⟩

end Table

/-! ### Options that name a field -/

/-- Entries under texts, as options. -/
def textOptions (entries : List (String × Value)) : List (Value × Value) :=
  entries.map fun (k, v) => (.text k, v)

theorem textOption_injective : Function.Injective fun e : String × Value => (Value.text e.1, e.2) :=
  fun _ _ h => Prod.ext (Value.text.inj (Prod.mk.inj h).1) (Prod.mk.inj h).2

theorem textOptions_injective : Function.Injective textOptions :=
  List.map_injective_iff.mpr textOption_injective

theorem sharp_of_mem_textOptions {entries : List (String × Value)} {o : Value × Value}
    (ho : o ∈ textOptions entries) : Table.Sharp o.1 := by
  obtain ⟨e, -, rfl⟩ := List.mem_map.mp ho
  refine fun k => ⟨Value.eq_text_of_beq, ?_⟩
  rintro rfl
  have hsame : Value.equals (.text e.1) (.text e.1) = true := by rw [Value.equals, beq_self_eq_true]
  exact hsame

namespace VariableField

/-- Whether a value can be used for a field. -/
def takes (f : VariableField) (v : Value) : Bool :=
  match f with
  | .validator =>
    match Declaration.judge (some v) with
    | .ok (_, none) => true
    | _ => false
  | f => (VariableSpec.fault? v f).isNone

/-- Whether an option names a field. -/
def names (f : VariableField) (o : Value × Value) : Bool := model.field? o.1 = some f

@[simp] theorem names_eq_true_iff {f : VariableField} {o : Value × Value} :
    f.names o = true ↔ model.field? o.1 = some f := decide_eq_true_iff

variable {f : VariableField} {v : Value}

theorem names_congr {o o' : Value × Value} (h : o.1 = o'.1) : f.names o = f.names o' := by
  rw [names, h, names]

theorem fault?_of_takes (h : f.takes v = true) : VariableSpec.fault? v f = none := by
  cases f with
  | validator =>
    rw [takes] at h
    rw [VariableSpec.fault?]
    rcases hjudge : Declaration.judge (some v) with e | ⟨validator, p?⟩
    · rfl
    · cases p? with
      | none => rfl
      | some p => simp [hjudge] at h
  | _ => exact Option.isNone_iff_eq_none.mp h

theorem judge_of_takes (h : VariableField.validator.takes v = true) :
    ∃ validator, Declaration.judge (some v) = .ok (validator, none) := by
  rw [takes] at h
  rcases hjudge : Declaration.judge (some v) with e | ⟨validator, p?⟩
  · simp [hjudge] at h
  · cases p? with
    | none => exact ⟨validator, rfl⟩
    | some p => simp [hjudge] at h

/-- **An option whose value can be used is accepted** for the field that it names. -/
theorem accept_of_takes {key : Value} (hfield : model.field? key = some f)
    (htakes : f.takes v = true) : model.accept key v = .ok f := by
  refine OptionModel.accept_of_usable hfield ?_
  cases f with
  | onChange =>
    cases v with
    | nothing | callable c => rfl
    | _ => cases htakes
  | _ => exact OptionModel.isUnusable_of_isHook rfl v

end VariableField

/-- Options of which each can be used. -/
def Usable (options : List (Value × Value)) : Prop :=
  ∀ o ∈ options, ∃ f, VariableField.model.field? o.1 = some f ∧ f.takes o.2 = true

/-- Options of which some name a field. -/
def Named (options : List (Value × Value)) (f : VariableField) : Prop :=
  ∃ o ∈ options, f.names o = true

/-- The last option that names a field. -/
def lastNamed? (options : List (Value × Value)) (f : VariableField) : Option (Value × Value) :=
  options.reverse.find? f.names

section Named

variable {options : List (Value × Value)} {f : VariableField} {o : Value × Value}

theorem lastNamed?_eq_none_iff : lastNamed? options f = none ↔ ¬ Named options f := by
  simp [lastNamed?, Named]

theorem Named.last (h : Named options f) : ∃ o, lastNamed? options f = some o :=
  Option.ne_none_iff_exists'.mp fun hnone => lastNamed?_eq_none_iff.mp hnone h

theorem lastNamed?_mem (h : lastNamed? options f = some o) : o ∈ options ∧ f.names o = true :=
  ⟨List.mem_reverse.mp (List.mem_of_find?_eq_some h), List.find?_some h⟩

theorem lastNamed?_append (before after : List (Value × Value)) :
    lastNamed? (before ++ after) f = (lastNamed? after f).or (lastNamed? before f) := by
  rw [lastNamed?, List.reverse_append, List.find?_append]
  rfl

/-- Which option is the last one is a matter of the keys. -/
theorem lastNamed?_map {g : Value × Value → Value × Value} (hg : ∀ o ∈ options, (g o).1 = o.1) :
    lastNamed? (options.map g) f = (lastNamed? options f).map g := by
  induction options with
  | nil => rfl
  | cons o rest ih =>
    have hnames : f.names (g o) = f.names o := by
      rw [VariableField.names, hg o List.mem_cons_self, VariableField.names]
    have hfirst : lastNamed? [g o] f = (lastNamed? [o] f).map g := by
      cases hf : f.names o <;> simp [lastNamed?, hnames, hf]
    have hmap : (o :: rest).map g = [g o] ++ rest.map g := rfl
    have hsplit : o :: rest = [o] ++ rest := rfl
    rw [hmap, lastNamed?_append, ih fun o' ho' => hg o' (List.mem_cons_of_mem o ho'), hfirst,
      hsplit, lastNamed?_append]
    cases lastNamed? rest f <;> rfl

theorem Usable.of_all (h : options.all (fun o =>
    (VariableField.model.field? o.1).any fun f => f.takes o.2) = true) : Usable options :=
  fun o ho => (Option.any_eq_true _ _).mp (List.all_eq_true.mp h o ho)

theorem Usable.takes (h : Usable options) (ho : o ∈ options) (hnames : f.names o = true) :
    f.takes o.2 = true := by
  obtain ⟨g, hfield, htakes⟩ := h o ho
  rw [VariableField.names_eq_true_iff, hfield] at hnames
  cases hnames
  exact htakes

theorem Usable.refusals (h : Usable options) : VariableField.model.refusals options = [] := by
  refine List.filterMap_eq_nil_iff.mpr fun o ho => ?_
  obtain ⟨f, hfield, htakes⟩ := h o ho
  rw [VariableField.accept_of_takes hfield htakes]

/-- **Where all options can be used, the last one that names a field counts.** -/
theorem Usable.given? (h : Usable options) (f : VariableField) :
    VariableField.model.given? options f = (lastNamed? options f).map Prod.snd := by
  induction options with
  | nil => rfl
  | cons o rest ih =>
    obtain ⟨g, hfield, htakes⟩ := h o List.mem_cons_self
    have hsplit : o :: rest = [o] ++ rest := rfl
    rw [OptionModel.given?_cons_of_accept _ (VariableField.accept_of_takes hfield htakes),
      ih fun o' ho' => h o' (List.mem_cons_of_mem o ho'), hsplit, lastNamed?_append]
    have hfirst : ((lastNamed? [o] f).map Prod.snd) = if f = g then some o.2 else none := by
      by_cases hf : f = g
      · subst hf
        simp [lastNamed?, hfield]
      · simp [lastNamed?, hfield, hf, Ne.symm hf, VariableField.names]
    rw [← hfirst]
    cases lastNamed? rest f <;> rfl

end Named

/-! ### Keywords over a mapping -/

/-- The keywords that name a field repeat keys of the mapping, and the last key that names the field
there is none of them. -/
structure Overtaken (mapping keywords : List (Value × Value)) (f : VariableField) : Prop where
  named : Named keywords f
  repeated : ∀ o ∈ keywords, f.names o = true → o.1 ∈ mapping.map Prod.fst
  last : ∃ o, lastNamed? mapping f = some o ∧ o.1 ∉ keywords.map Prod.fst

section Given

variable (options : List (Value × Value)) (keywords : List (String × Value)) {f : VariableField}

theorem givenOptions_putOver :
    ∃ g fresh, givenOptions options keywords = (Table.ofList options).entries.map g ++ fresh ∧
      Table.PutOver (Table.ofList options).entries (textOptions keywords) g fresh :=
  Table.entries_putAll (Table.Distinct.putAll List.Pairwise.nil options) fun _ ho =>
    sharp_of_mem_textOptions ho

variable {options keywords}

theorem Usable.givenOptions (hoptions : Usable (Table.ofList options).entries)
    (hkeywords : Usable (textOptions keywords)) : Usable (givenOptions options keywords) := by
  obtain ⟨g, fresh, hgiven, hover⟩ := givenOptions_putOver options keywords
  intro o ho
  rw [hgiven] at ho
  rcases List.mem_append.mp ho with ho | ho
  · obtain ⟨e, he, rfl⟩ := List.mem_map.mp ho
    by_cases hkey : e.1 ∈ (textOptions keywords).map Prod.fst
    · exact hkeywords _ (hover.replaced e he hkey)
    · rw [hover.kept e he hkey]
      exact hoptions e he
  · exact hkeywords o (hover.behind o ho).1

/-- **A keyword counts unless it is overtaken.** -/
theorem lastNamed?_of_keyword (hnamed : Named (textOptions keywords) f)
    (hahead : ¬ Overtaken (Table.ofList options).entries (textOptions keywords) f) :
    ∃ o ∈ textOptions keywords, lastNamed? (givenOptions options keywords) f = some o := by
  obtain ⟨g, fresh, hgiven, hover⟩ := givenOptions_putOver options keywords
  rw [hgiven, lastNamed?_append, lastNamed?_map hover.fst]
  cases hfresh : lastNamed? fresh f with
  | some o => exact ⟨o, (hover.behind o (lastNamed?_mem hfresh).1).1, rfl⟩
  | none =>
    -- a keyword with a key of its own would be among the new ones
    have hrepeated : ∀ o ∈ textOptions keywords, f.names o = true →
        o.1 ∈ (Table.ofList options).entries.map Prod.fst := fun o ho hnames => by
      by_contra hnew
      obtain ⟨e, he, hkey⟩ := List.mem_map.mp (hover.covers o ho hnew)
      exact lastNamed?_eq_none_iff.mp hfresh ⟨e, he, (VariableField.names_congr hkey).trans hnames⟩
    obtain ⟨o, ho, hnames⟩ := hnamed
    obtain ⟨e, he, hkey⟩ := List.mem_map.mp (hrepeated o ho hnames)
    cases hlast : lastNamed? (Table.ofList options).entries f with
    | none =>
      exact absurd ⟨e, he, (VariableField.names_congr hkey).trans hnames⟩
        (lastNamed?_eq_none_iff.mp hlast)
    | some last =>
      have hover' : last.1 ∈ (textOptions keywords).map Prod.fst := by
        by_contra hnone
        exact hahead ⟨⟨o, ho, hnames⟩, hrepeated, last, hlast, hnone⟩
      exact ⟨g last, hover.replaced last (lastNamed?_mem hlast).1 hover', rfl⟩

/-- **The mapping counts where no keyword names the field**, and where one is overtaken. -/
theorem lastNamed?_of_mapping (h : ¬ Named (textOptions keywords) f ∨
    Overtaken (Table.ofList options).entries (textOptions keywords) f) :
    lastNamed? (givenOptions options keywords) f =
      lastNamed? (Table.ofList options).entries f := by
  obtain ⟨g, fresh, hgiven, hover⟩ := givenOptions_putOver options keywords
  have hfresh : lastNamed? fresh f = none := by
    rw [lastNamed?_eq_none_iff]
    rintro ⟨o, ho, hnames⟩
    obtain ⟨hkeyword, hnew⟩ := hover.behind o ho
    rcases h with h | h
    · exact h ⟨o, hkeyword, hnames⟩
    · exact hnew (h.repeated o hkeyword hnames)
  rw [hgiven, lastNamed?_append, lastNamed?_map hover.fst, hfresh, Option.none_or]
  cases hlast : lastNamed? (Table.ofList options).entries f with
  | none => rfl
  | some o =>
    obtain ⟨ho, hnames⟩ := lastNamed?_mem hlast
    have hkey : o.1 ∉ (textOptions keywords).map Prod.fst := by
      rcases h with h | h
      · intro hmem
        obtain ⟨keyword, hkeyword, hsame⟩ := List.mem_map.mp hmem
        exact h ⟨keyword, hkeyword, (VariableField.names_congr hsame).trans hnames⟩
      · obtain ⟨last, hlast', hnew⟩ := h.last
        rw [hlast] at hlast'
        cases hlast'
        exact hnew
    rw [Option.map_some, hover.kept o ho hkey]

end Given

/-! ### The fields of a declaration -/

theorem VariableSpec.cleared_value (spec : VariableSpec) (f : VariableField) :
    (spec.cleared f).value f = ({} : VariableSpec).value f := by
  cases f <;> rfl

namespace Declaration

variable {d : Declaration} {refused : List Problem} {t globals : Table VariableField Value}
  {options : List (Value × Value)} {f : VariableField}

/-- A field without a value is at its default. -/
theorem make_default (hmade : make refused t = .ok d) (hnone : t.get? f = none) :
    d.spec.value f = ({} : VariableSpec).value f := by
  obtain ⟨validator, p?, -, rfl⟩ := make_ok_iff.mp hmade
  have hleft : (leaving t p?).get? f = none := by
    unfold leaving
    split
    · rw [Table.get?_erase]
      split
      · rfl
      · exact hnone
    · exact hnone
  have hcleared : (VariableSpec.build (leaving t p?)).1 = _ :=
    VariableSpec.build_of_none (fun _ _ => rfl) hleft
  dsimp only
  rw [hcleared, VariableSpec.cleared_value]

/-- A declaration has read a field from one of the options that name it. -/
def Draws (d : Declaration) (options : List (Value × Value)) (f : VariableField) : Prop :=
  ∃ o ∈ options, f.names o = true ∧ d.Uses o.2 f

theorem draws_of_lastNamed? {o : Value × Value} (hlast : lastNamed? options f = some o)
    (huses : d.Uses o.2 f) : d.Draws options f :=
  ⟨o, (lastNamed?_mem hlast).1, (lastNamed?_mem hlast).2, huses⟩

/-- Whence a declaration has a field: from the keywords, from the mapping, from the options of the
registry, or from nowhere. -/
structure Layered (d : Declaration) (globals mapping keywords : List (Value × Value))
    (f : VariableField) : Prop where
  of_keywords : Named keywords f → ¬ Overtaken mapping keywords f → d.Draws keywords f
  of_overtaken : Overtaken mapping keywords f → d.Draws mapping f
  of_mapping : ¬ Named keywords f → Named mapping f → d.Draws mapping f
  of_globals : ¬ Named keywords f → ¬ Named mapping f → Named globals f → d.Draws globals f
  of_default : ¬ Named keywords f → ¬ Named mapping f → ¬ Named globals f →
    d.spec.value f = ({} : VariableSpec).value f

/-- The value that usable options have in effect for a field is that of the last option that names
the field, or else that of the options beneath. -/
theorem overlay_of_usable {beneath : List (Value × Value)} (hbeneath : Usable beneath)
    (hoptions : Usable options) (f : VariableField) :
    ((VariableField.model.canonical beneath).1.overlay
        (VariableField.model.canonical options).1).get? f =
      ((lastNamed? options f).or (lastNamed? beneath f)).map Prod.snd := by
  have hfirst : (VariableField.model.canonical beneath).1.get? f =
      VariableField.model.given? beneath f := by
    rw [OptionModel.canonical_eq, Table.ofList, Table.get?_putAll, Table.get?_empty,
      Option.or_none]
    rfl
  rw [OptionModel.overlay_get?, hfirst, hoptions.given?, hbeneath.given?, ← Option.map_or]

/-- **Usable options make a declaration**, without problems. -/
theorem ofOptions_of_usable {beneath : List (Value × Value)} (hbeneath : Usable beneath)
    (hoptions : Usable options) :
    ∃ d, ofOptions (VariableField.model.canonical beneath).1 options = .ok d ∧ d.problems = [] ∧
      ∀ f, (∀ o, (lastNamed? options f).or (lastNamed? beneath f) = some o → d.Uses o.2 f) ∧
        ((lastNamed? options f).or (lastNamed? beneath f) = none →
          d.spec.value f = ({} : VariableSpec).value f) := by
  have hmerged := overlay_of_usable hbeneath hoptions
  have htakes : ∀ f o, (lastNamed? options f).or (lastNamed? beneath f) = some o →
      f.takes o.2 = true := fun f o ho => by
    rcases Option.or_eq_some_iff.mp ho with ho | ⟨-, ho⟩
    · exact hoptions.takes (lastNamed?_mem ho).1 (lastNamed?_mem ho).2
    · exact hbeneath.takes (lastNamed?_mem ho).1 (lastNamed?_mem ho).2
  rw [ofOptions_eq, hoptions.refusals]
  cases hmade : make [] ((VariableField.model.canonical beneath).1.overlay
      (VariableField.model.canonical options).1) with
  | error e =>
    rw [make_error_iff, hmerged] at hmade
    cases hlast : (lastNamed? options .validator).or (lastNamed? beneath .validator) with
    | none =>
      rw [hlast] at hmade
      cases hmade
    | some o =>
      obtain ⟨validator, hjudge⟩ := VariableField.judge_of_takes (htakes .validator o hlast)
      rw [hlast, Option.map_some, hjudge] at hmade
      cases hmade
  | ok d =>
    refine ⟨d, rfl, List.eq_nil_iff_forall_not_mem.mpr fun p hp => ?_, fun f =>
      ⟨fun o ho => ?_, fun hnone => ?_⟩⟩
    · rcases (mem_make_problems hmade).mp hp with hp | ⟨f, v, hv, hfault⟩
      · cases hp
      · rw [hmerged, Option.map_eq_some_iff] at hv
        obtain ⟨o, ho, rfl⟩ := hv
        rw [VariableField.fault?_of_takes (htakes f o ho)] at hfault
        cases hfault
    · exact make_uses hmade (by rw [hmerged, ho]; rfl)
        (VariableField.fault?_of_takes (htakes f o ho))
    · exact make_default hmade (by rw [hmerged, hnone]; rfl)

/-- **A declaration has its fields from the layers of its options.** -/
theorem ofOptions_layered {options : List (Value × Value)} {keywords : List (String × Value)}
    {beneath : List (Value × Value)} (hbeneath : Usable beneath)
    (hoptions : Usable (Table.ofList options).entries) (hkeywords : Usable (textOptions keywords)) :
    ∃ d, ofOptions (VariableField.model.canonical beneath).1 (givenOptions options keywords) =
        .ok d ∧ d.problems = [] ∧
      ∀ f, d.Layered beneath (Table.ofList options).entries (textOptions keywords) f := by
  obtain ⟨d, hmade, hproblems, hfields⟩ :=
    ofOptions_of_usable hbeneath (hoptions.givenOptions hkeywords)
  refine ⟨d, hmade, hproblems, fun f => ?_⟩
  obtain ⟨huses, hdefault⟩ := hfields f
  refine ⟨fun hnamed hahead => ?_, fun hovertaken => ?_, fun hkeyword hnamed => ?_,
    fun hkeyword hmapping hnamed => ?_, fun hkeyword hmapping hglobal => ?_⟩
  · obtain ⟨o, ho, hlast⟩ := lastNamed?_of_keyword hnamed hahead
    exact ⟨o, ho, (lastNamed?_mem hlast).2, huses o (by rw [hlast]; rfl)⟩
  · obtain ⟨o, hlast, -⟩ := hovertaken.last
    have hgiven := (lastNamed?_of_mapping (.inr hovertaken)).trans hlast
    exact draws_of_lastNamed? hlast (huses o (by rw [hgiven]; rfl))
  · obtain ⟨o, hlast⟩ := hnamed.last
    have hgiven := (lastNamed?_of_mapping (.inl hkeyword)).trans hlast
    exact draws_of_lastNamed? hlast (huses o (by rw [hgiven]; rfl))
  · obtain ⟨o, hlast⟩ := hnamed.last
    have hgiven := (lastNamed?_of_mapping (.inl hkeyword)).trans
      (lastNamed?_eq_none_iff.mpr hmapping)
    exact draws_of_lastNamed? hlast (huses o (by rw [hgiven, hlast]; rfl))
  · have hgiven := (lastNamed?_of_mapping (.inl hkeyword)).trans
      (lastNamed?_eq_none_iff.mpr hmapping)
    exact hdefault (by rw [hgiven, lastNamed?_eq_none_iff.mpr hglobal]; rfl)

end Declaration

/-! ### The call of a declaration -/

/-- The options of a registry are those of its settings, sorted. -/
theorem Reachable.globals_eq {depth : Nat} {w : World} (hw : Reachable (Callable.call depth) w) :
    w.registry.globals = (VariableField.model.canonical
      (textOptions w.registry.settings.globalOptions.entries)).1 :=
  hw.of_stable
    (P := fun r => r.globals =
      (VariableField.model.canonical (textOptions r.settings.globalOptions.entries)).1)
    { settable := fun _ hr _ => hr
      declare := fun name hr _ => by rw [Registry.declare_globals, Registry.declare_settings, hr]
      addAlias := fun _ _ hr _ => hr }
    (fun _ _ _ => rfl) fun _ hr => hr

/-- **A keyword counts unless it is overtaken.**  Let all options of a call be usable, and those of
the registry.  Then the call enters a declaration without problems, which has each field from the
keywords if one names it, else from the mapping, else from the options of the registry, and else at
its default; but where the keywords for a field repeat keys of the mapping and another spelling of
the field comes behind them there, the field is from the mapping.  Where neither the error sink nor
the hook of the variable interferes, the call returns and this is the specification of the
variable. -/
theorem keyword_counts_unless_overtaken (depth : Nat) {w : World}
    (hw : Reachable (Callable.call depth) w) (name : String) {options : List (Value × Value)}
    {keywords : List (String × Value)}
    (hglobals : Usable (textOptions w.registry.settings.globalOptions.entries))
    (hoptions : Usable (Table.ofList options).entries)
    (hkeywords : Usable (textOptions keywords)) :
    let call := Callable.call depth
    let r := w.registry
    ∃ d, Declaration.ofOptions r.globals (givenOptions options keywords) = .ok d ∧
      d.problems = [] ∧
      (∀ f, d.Layered (textOptions r.settings.globalOptions.entries)
        (Table.ofList options).entries (textOptions keywords) f) ∧
      (define call name options keywords).ends w = (enter call name d).ends w ∧
      (r.settings.IdleSink call → d.spec.IdleHook call (r.introduce name d) (r.fold name) →
        ∃ w', (define call name options keywords).ends w = (.ok (r.fold name), w') ∧
          w'.registry.specs.get? (r.fold name) = some d.spec) := by
  intro call r
  obtain ⟨d, hmade, hproblems, hlayered⟩ :=
    Declaration.ofOptions_layered hglobals hoptions hkeywords
  rw [← hw.globals_eq] at hmade
  refine ⟨d, hmade, hproblems, hlayered, ?_, fun hsink hhook => ?_⟩
  · rw [define_enters, hmade]
  · obtain ⟨w', hends, hintroduced, -⟩ := define_introduces hw.sound hmade hsink hhook
    refine ⟨w', hends, ?_⟩
    rw [hintroduced, Registry.introduce_specs, Table.get?_put, if_pos rfl]

/-! ### Keywords over mappings with other spellings -/

/-- A session whose variables are not expanded and have a trigger, unless they say otherwise. -/
def layeredSession : World :=
  newSession [(.text "error", .callable .recorder),
    (.text "global", .map [(.text "Expand", .bool false), (.text "cmdarg", .text "-g")])]

/-- The session behind a call that names aliases in the mapping and in a keyword, in different
spellings, and triggers in the mapping. -/
def layeredEnd : World :=
  ((define Caller.standard "x" [(.text "ALIAS", .text "a"), (.text "command_triggers", .bool true)]
    [("aliases", .text "c")]).ends layeredSession).2

theorem layeredEnd_fields :
    (layeredEnd.registry.specs.get? "x").map (fun spec =>
      (spec.aliases, spec.triggers, spec.expand, spec.argumentRequired)) =
      some (["c"], .generated true, false, false) := by decide +kernel

theorem keyword_counts_over_other_spelling :
    let w := layeredSession
    let options := [(Value.text "ALIAS", Value.text "a"), (.text "command_triggers", .bool true)]
    let keywords := [("aliases", Value.text "c")]
    Reachable Caller.standard w ∧
      Usable (textOptions w.registry.settings.globalOptions.entries) ∧
      Usable (Table.ofList options).entries ∧ Usable (textOptions keywords) ∧
      ∃ d : Declaration, d.problems = [] ∧
        (∀ f, d.Layered (textOptions w.registry.settings.globalOptions.entries)
          (Table.ofList options).entries (textOptions keywords) f) ∧
        (define Caller.standard "x" options keywords).ends w =
          (enter Caller.standard "x" d).ends w ∧
        (layeredEnd.registry.specs.get? "x").map (fun spec =>
          (spec.aliases, spec.triggers, spec.expand, spec.argumentRequired)) =
          some (["c"], .generated true, false, false) := by
  intro w options keywords
  have hw : Reachable Caller.standard w := .start _ _ _ _
  have hglobals : Usable (textOptions w.registry.settings.globalOptions.entries) :=
    .of_all (by decide +kernel)
  have hoptions : Usable (Table.ofList options).entries := .of_all (by decide +kernel)
  have hkeywords : Usable (textOptions keywords) := .of_all (by decide +kernel)
  obtain ⟨d, -, hproblems, hlayered, hends, -⟩ :=
    keyword_counts_unless_overtaken maxCallDepth hw "x" hglobals hoptions hkeywords
  exact ⟨hw, hglobals, hoptions, hkeywords, d, hproblems, hlayered, hends, layeredEnd_fields⟩

/-- The session behind a call whose keyword repeats the first of two spellings in the mapping. -/
def overtakenEnd : World :=
  ((define Caller.standard "x" [(.text "alias", .text "a"), (.text "aliases", .text "b")]
    [("alias", .text "c")]).ends (newSession [])).2

theorem overtakenEnd_aliases :
    (overtakenEnd.registry.specs.get? "x").map VariableSpec.aliases = some ["b"] := by
  decide +kernel

/-- A keyword names the aliases, and the variable has those of the mapping. -/
theorem repeated_spelling_loses_to_mapping :
    let w := newSession []
    let options := [(Value.text "alias", Value.text "a"), (.text "aliases", .text "b")]
    let keywords := [("alias", Value.text "c")]
    Reachable Caller.standard w ∧
      Usable (textOptions w.registry.settings.globalOptions.entries) ∧
      Usable (Table.ofList options).entries ∧ Usable (textOptions keywords) ∧
      Named (textOptions keywords) .aliases ∧
      (define Caller.standard "x" options keywords).ends w = (.ok "x", overtakenEnd) ∧
      ∃ spec, overtakenEnd.registry.specs.get? "x" = some spec ∧ spec.aliases = ["b"] ∧
        ∀ o ∈ textOptions keywords, VariableSpec.readTexts o.2 ≠ .ok spec.aliases := by
  intro w options keywords
  obtain ⟨spec, hspec, haliases⟩ := Option.map_eq_some_iff.mp overtakenEnd_aliases
  refine ⟨.start _ _ _ _, .of_all (by decide +kernel), .of_all (by decide +kernel),
    .of_all (by decide +kernel), ⟨_, List.mem_cons_self, by decide +kernel⟩,
    ends_of_answer (by decide +kernel), spec, hspec, haliases, fun o ho => ?_⟩
  obtain rfl := List.mem_singleton.mp ho
  simp [haliases, VariableSpec.readTexts]

end ConfigVars
