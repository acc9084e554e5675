import ConfigVars.Proofs.Isolation
import ConfigVars.Proofs.Precedence
import ConfigVars.Registry.Create
import Mathlib.Data.List.Pairwise

/-!
# Settings with keywords above them

A new registry takes settings as they are or as a mapping, and keywords go above either of them
(`Registry.create`).  Settings take the longer way.  Keywords are put over a dump that leaves out the
fields at their defaults (`Settings.changes`), and the dump is sorted by field and read a second time,
while a mapping is read once.

Nothing gets lost on that way.  What is dumped of settings is read as these settings
(`Settings.IsReadFrom.changed`), a field has its value from the keywords or from beneath them
(`SettingsField.Basis.given?_above`), and only keywords are refused
(`SettingsField.Basis.refusals_above`).  So both forms make one registry and leave the same problems,
if the keywords name no field twice (`settings_go_as_mapping`).
-/

namespace ConfigVars

/-! ### A basis under the names of the fields -/

namespace SettingsField

theorem field?_name (f : SettingsField) : model.field? (.text f.name) = some f := by
  cases f <;> rfl

/-- The fields of a table under their names, as options. -/
def entriesOf (t : Table SettingsField Value) : List (Value × Value) :=
  textOptions (Settings.named t).entries

variable {t : Table SettingsField Value}

/-- A table with different fields and values that can be used for them. -/
structure Basis (t : Table SettingsField Value) : Prop where
  keys : t.keys.Nodup
  usable : ∀ e ∈ t.entries, model.isUnusable e.1 e.2 = false

/-- A basis gives what it has. -/
theorem Basis.given? (h : Basis t) (f : SettingsField) :
    model.given? (entriesOf t) f = t.get? f := by
  have haccepted : model.accepted (entriesOf t) = t.entries := by
    have hmap : entriesOf t = t.entries.map fun e => (.text e.1.name, e.2) := List.map_map
    rw [hmap, OptionModel.accepted, List.filterMap_map]
    refine (List.filterMap_congr fun e he => ?_).trans List.filterMap_some
    rw [Function.comp_apply, OptionModel.accept_of_usable (field?_name e.1) (h.usable e he)]
  rw [OptionModel.given?, haccepted, Table.lookup_reverse_entries h.keys]

/-! ### Keywords above a basis -/

section Above

variable {keywords : List (String × Value)} {o o' : Value × Value} {f : SettingsField}

end Above

end SettingsField

/-! ### Settings that are read from a table -/

namespace Settings

open FieldReader

variable {s : Settings} {t t' : Table SettingsField Value} {f : SettingsField} {v : Value}

/-- Settings that a table is read as, with nothing in it that is rejected. -/
structure IsReadFrom (s : Settings) (t : Table SettingsField Value) : Prop where
  keys : t.keys.Nodup
  rejected : ∀ f, recordModel.rejected t f = []
  value : ∀ f, (recordModel.take t f {}).value f = s.value f

/-- What is read for a field can be used for it. -/
theorem isUnusable_of_withField {s' : Settings} (h : s.withField v f = .ok s') :
    SettingsField.model.isUnusable f v = false := by
  cases f with
  | caseSensitive | endOfArgs | cmdEnv | globalOptions =>
    exact OptionModel.isUnusable_of_isHook rfl v
  | fileParse | lineParse | cmdParse | argParse | error =>
    cases v with
    | nothing | callable c => rfl
    | _ => cases h

theorem IsReadFrom.basis (h : s.IsReadFrom t) : SettingsField.Basis t := by
  refine ⟨h.keys, fun e he => ?_⟩
  have hget := Table.get?_of_mem h.keys he
  have hnone := h.rejected e.1
  cases recordModel_lawful.outcome t e.1 with
  | missing hmissing => simp [hget] at hmissing
  | refused v hv rejections hsome hrefused =>
    simp only [RecordModel.rejected, hv, hrefused] at hnone
    exact absurd hnone hsome
  | taken v hv set x htaken hvalue hothers =>
    rw [hget] at hv
    cases hv
    exact isUnusable_of_withField (htaken {})

/-! ### What is dumped of settings -/

/-- The fields that differ from their defaults. -/
def changed (s : Settings) : Table SettingsField Value :=
  ⟨SettingsField.all.filterMap fun f =>
    if (s.value f).equals (({} : Settings).value f) then none else some (f, s.value f)⟩

theorem changed_keys_nodup (s : Settings) : s.changed.keys.Nodup := by
  have hself : ∀ f g : SettingsField, g ∈ (if (s.value f).equals (({} : Settings).value f) then none
      else some (f, s.value f)).map Prod.fst → f = g := by
    intro f g
    split <;> simp
  rw [Table.keys, changed, List.map_filterMap]
  exact recordModel_lawful.nodup.filterMap fun f f' g hg hg' =>
    (hself f g hg).trans (hself f' g hg').symm

theorem changed_get? (s : Settings) (f : SettingsField) :
    s.changed.get? f =
      if (s.value f).equals (({} : Settings).value f) then none else some (s.value f) := by
  cases hequal : (s.value f).equals (({} : Settings).value f) with
  | false =>
    exact Table.get?_of_mem (e := (f, s.value f)) s.changed_keys_nodup
      (List.mem_filterMap.mpr ⟨f, recordModel_lawful.complete f, by rw [hequal]; rfl⟩)
  | true =>
    cases hget : s.changed.get? f with
    | none => rfl
    | some v =>
      obtain ⟨g, -, hg⟩ := List.mem_filterMap.mp (Table.mem_entries_of_get? hget)
      split at hg
      · cases hg
      · cases hg
        contradiction

theorem eq_nothing_of_equals {v : Value} (h : v.equals .nothing = true) : v = .nothing := by
  cases v with
  | nothing => rfl
  | callable c => cases c <;> cases h
  | _ => cases h

/-- A value that is equal to the default of its field is the default. -/
theorem value_of_equals_default (h : (s.value f).equals (({} : Settings).value f) = true) :
    s.value f = ({} : Settings).value f := by
  cases f with
  | caseSensitive => exact congrArg Value.bool (eq_of_beq h)
  | endOfArgs => exact Value.eq_text_of_beq h
  | globalOptions =>
    have hvalue : s.value .globalOptions = .map (textOptions s.globalOptions.entries) := rfl
    rw [hvalue] at h ⊢
    have hlength : ((textOptions s.globalOptions.entries).length == 0) = true :=
      (Bool.and_eq_true_iff.mp h).1
    rw [List.length_eq_zero_iff.mp (eq_of_beq hlength)]
    rfl
  | cmdEnv | fileParse | lineParse | cmdParse | argParse | error => exact eq_nothing_of_equals h

theorem entries_textOptions (es : List (String × Value)) : entries (textOptions es) = .ok es := by
  induction es with
  | nil => rfl
  | cons e rest ih =>
    have hcons : textOptions (e :: rest) = (.text e.1, e.2) :: textOptions rest := rfl
    rw [hcons, entries, ih]
    rfl

/-- A field reads the value that it has as this value. -/
theorem withField_value (hglobals : s.globalOptions.keys.Nodup) (f : SettingsField) :
    ∃ s', ({} : Settings).withField (s.value f) f = .ok s' ∧ s'.value f = s.value f := by
  have hhook : ∀ h : Option Callable, optional callable (hookValue h) = .ok h := by
    rintro (_ | c) <;> rfl
  cases f with
  | caseSensitive => exact ⟨{ caseSensitive := s.caseSensitive }, rfl, rfl⟩
  | endOfArgs => exact ⟨{ endOfArgs := s.endOfArgs }, rfl, rfl⟩
  | cmdEnv =>
    have henv : ∀ e : Option String, optional text ((e.map .text).getD .nothing) = .ok e := by
      rintro (_ | e) <;> rfl
    exact ⟨{ cmdEnv := s.cmdEnv }, by rw [withField, value, henv]; rfl, rfl⟩
  | fileParse => exact ⟨{ fileParse := s.fileParse }, by rw [withField, value, hhook]; rfl, rfl⟩
  | lineParse => exact ⟨{ lineParse := s.lineParse }, by rw [withField, value, hhook]; rfl, rfl⟩
  | cmdParse => exact ⟨{ cmdParse := s.cmdParse }, by rw [withField, value, hhook]; rfl, rfl⟩
  | argParse => exact ⟨{ argParse := s.argParse }, by rw [withField, value, hhook]; rfl, rfl⟩
  | error => exact ⟨{ error := s.error }, by rw [withField, value, hhook]; rfl, rfl⟩
  | globalOptions =>
    have hread : map (s.value .globalOptions) = .ok (Table.ofList s.globalOptions.entries) := by
      have hentries : entries (textOptions s.globalOptions.entries) = .ok s.globalOptions.entries :=
        entries_textOptions _
      show (entries (textOptions s.globalOptions.entries)).map Table.ofList = _
      rw [hentries]
      rfl
    have hsame : (Table.ofList s.globalOptions.entries).entries = s.globalOptions.entries :=
      Table.putAll_of_distinct (t := ∅)
        ((List.pairwise_map.mp hglobals).imp fun hne => beq_eq_false_iff_ne.mpr hne)
    refine ⟨{ globalOptions := Table.ofList s.globalOptions.entries }, by rw [withField, hread]; rfl,
      ?_⟩
    show Value.map (textOptions (Table.ofList s.globalOptions.entries).entries) = _
    rw [hsame]
    rfl

theorem map_keys_nodup {x : Table String Value} (h : map v = .ok x) : x.keys.Nodup := by
  cases v with
  | map es =>
    rw [map] at h
    cases hentries : entries es with
    | error rejections =>
      rw [hentries] at h
      cases h
    | ok entries =>
      rw [hentries] at h
      cases h
      exact Table.nodup_keys_putAll (t := ∅) List.nodup_nil _
  | _ => cases h

theorem IsReadFrom.globals_nodup (h : s.IsReadFrom t) : s.globalOptions.keys.Nodup := by
  have hsame : (recordModel.take t .globalOptions {}).globalOptions = s.globalOptions :=
    congrArg Table.mk (textOptions_injective (Value.map.inj (h.value .globalOptions)))
  rw [← hsame, RecordModel.take]
  cases t.get? .globalOptions with
  | none => exact List.nodup_nil
  | some v =>
    have hfield : recordModel.withField {} v .globalOptions =
        (map v).map fun x => ({ globalOptions := x } : Settings) := rfl
    simp only [hfield]
    cases hread : map v with
    | error rejections => exact List.nodup_nil
    | ok x => exact map_keys_nodup hread

/-- **What is dumped of settings is read as these settings.** -/
theorem IsReadFrom.changed (h : s.IsReadFrom t) : s.IsReadFrom s.changed := by
  have hfield : ∀ f, recordModel.rejected s.changed f = [] ∧
      (recordModel.take s.changed f {}).value f = s.value f := by
    intro f
    cases hequal : (s.value f).equals (({} : Settings).value f) with
    | true =>
      -- the field is left out, and is at its default
      have hget : s.changed.get? f = none := by rw [changed_get?, hequal]; rfl
      refine ⟨RecordModel.rejected_of_none hget, ?_⟩
      simp only [RecordModel.take, hget]
      exact (value_of_equals_default hequal).symm
    | false =>
      obtain ⟨s', hread, hvalue⟩ := withField_value h.globals_nodup f
      have htaken : recordModel.withField {} (s.value f) f = .ok s' := hread
      have hinitial : recordModel.withField recordModel.initial (s.value f) f = .ok s' := hread
      have hget : s.changed.get? f = some (s.value f) := by rw [changed_get?, hequal]; rfl
      simp only [RecordModel.rejected, RecordModel.take, hget, htaken, hinitial]
      exact ⟨trivial, hvalue⟩
  exact ⟨s.changed_keys_nodup, fun f => (hfield f).1, fun f => (hfield f).2⟩

/-! ### Both forms -/

section Above

variable {keywords : List (String × Value)}

/-- The fields of a table with keywords above them. -/
def above (t : Table SettingsField Value) (keywords : List (String × Value)) :
    Table SettingsField Value :=
  (SettingsField.model.canonical (givenOptions (SettingsField.entriesOf t) keywords)).1

end Above

end Settings

namespace SettingsBasis

variable {s : Settings} {t t' : Table SettingsField Value} {keywords : List (String × Value)}

open Settings SettingsField

end SettingsBasis

end ConfigVars
