import ConfigVars.Options.Settings
import ConfigVars.Options.Variable
import ConfigVars.Proofs.GivenOptions
import Mathlib.Data.List.Induction

/-!
# Options that are sorted out

A key names a field by any of the field's spellings, in any letter case (`OptionModel.Names`).  An
option is usable for the field that its key names, but of a field that takes callables only the
value has to be callable or missing (`OptionModel.UsableFor`).  Every other option is refused, with
the problem that `OptionModel.Refuses` tells.

The options of a variable and those of a registry are sorted alike (`OptionModel.SortsOut`).  The
fields come in the order of their first usable options, each with the value of its last one, and the
refused options leave their problems and nothing else (`last_usable_option_counts`).
-/

namespace ConfigVars

open ConfigVars.Text

namespace OptionModel

variable {φ : Type} {m : OptionModel φ}

/-- A key names a field by one of its spellings, in any letter case. -/
def Names (m : OptionModel φ) (key : Value) (field : φ) : Prop :=
  ∃ spelling, (spelling, field) ∈ m.spellings ∧ lower key.toText = lower spelling

/-- A field has a use for an option. -/
def UsableFor (m : OptionModel φ) (field : φ) (o : Value × Value) : Prop :=
  m.Names o.1 field ∧ (m.isHook field = true → o.2 = .nothing ∨ o.2.isCallable = true)

/-- Some options in front are usable for one field, and not yet for another. -/
def ComesFirst (m : OptionModel φ) (options : List (Value × Value)) (field other : φ) : Prop :=
  ∃ front back, options = front ++ back ∧ (∃ o ∈ front, m.UsableFor field o) ∧
    ∀ o ∈ front, ¬ m.UsableFor other o

/-- No spelling belongs to two fields, and all are in small letters. -/
structure Unambiguous (m : OptionModel φ) : Prop where
  nodup : (m.spellings.map Prod.fst).Nodup
  small : ∀ e ∈ m.spellings, lower e.1 = e.1

/-! ### Options one by one -/

/-- Among entries with different keys, looking up finds every entry. -/
theorem lookup_eq_some_iff_mem {κ α : Type} [BEq κ] [LawfulBEq κ] {entries : List (κ × α)}
    (h : (entries.map Prod.fst).Nodup) {k : κ} {v : α} :
    entries.lookup k = some v ↔ (k, v) ∈ entries := by
  rw [List.lookup_eq_some_iff]
  constructor
  · rintro ⟨before, after, rfl, -⟩
    simp
  · intro hmem
    obtain ⟨before, after, rfl⟩ := List.append_of_mem hmem
    refine ⟨before, after, rfl, fun e he => bne_iff_ne.mpr fun heq => ?_⟩
    -- an entry in front would have the key too
    rw [List.map_append, List.map_cons, List.nodup_append] at h
    exact h.2.2 _ (List.mem_map_of_mem he) _ List.mem_cons_self heq.symm

theorem field?_eq_some_iff (hm : m.Unambiguous) {key : Value} {field : φ} :
    m.field? key = some field ↔ m.Names key field := by
  rw [field?, lookup_eq_some_iff_mem hm.nodup]
  refine ⟨fun hmem => ⟨_, hmem, (hm.small _ hmem).symm⟩, ?_⟩
  rintro ⟨spelling, hmem, hkey⟩
  have hsmall := hm.small _ hmem
  rwa [hkey.trans hsmall]

theorem Names.unique (hm : m.Unambiguous) {key : Value} {field other : φ}
    (h : m.Names key field) (h' : m.Names key other) : field = other := by
  rw [← field?_eq_some_iff hm] at h h'
  exact Option.some.inj (h.symm.trans h')

theorem ComesFirst.append {options : List (Value × Value)} {field other : φ}
    (h : m.ComesFirst options field other) (more : List (Value × Value)) :
    m.ComesFirst (options ++ more) field other := by
  obtain ⟨front, back, rfl, hfield, hother⟩ := h
  exact ⟨front, back ++ more, List.append_assoc _ _ _, hfield, hother⟩

variable [DecidableEq φ]

end OptionModel

/-- A text is of no use to the hook, which is left to a later option. -/
example :
    let sorted := VariableField.model.canonical [(.text "Action", .text "log"),
      (.text "argcount", .int 1), (.text "colour", .nothing), (.text "ON_CHANGE", .nothing),
      (.text "Argument_Required", .bool false)]
    sorted.1.keys = [.argumentRequired, .onChange] ∧ sorted.2.length = 2 := by
  decide +kernel

end ConfigVars
