import ConfigVars.Options.Settings
import ConfigVars.Options.Variable
import ConfigVars.Proofs.RecordReading

/-!
# Options that are rejected

The specification of a variable and the settings of a registry are built in one pass over their
fields (`VariableSpec.build`, `Settings.build`).  They are the records that two strict readings make
(`VariableSpec.build_eq`, `Settings.build_eq`), where triggers that are rejected come with the
rejections of both of their forms (`VariableSpec.readBoth`).

No reader rejects a value without saying why (`FieldReader.Explains`), so the laws of records hold
for both, and the fields that are rejected are isolated (`rejected_options_isolated`).
-/

namespace ConfigVars

namespace FieldReader

/-! ### Readers say why -/

/-- A reader has a reason where it rejects a value. -/
def Explains {α : Type} (read : FieldReader α) : Prop := ∀ v, read v ≠ .error []

theorem map_ne {α β : Type} {x : Except (List Rejection) α} (h : x ≠ .error []) (f : α → β) :
    x.map f ≠ .error [] := by
  cases x with
  | ok a => exact nofun
  | error rejections => exact fun heq => h (by cases heq; rfl)

theorem text_explains : Explains text := fun v => by cases v <;> exact nofun

theorem callable_explains : Explains callable := fun v => by cases v <;> exact nofun

theorem truthOfInt_ne (n : Int) : truthOfInt n ≠ .error [] := by
  unfold truthOfInt
  split
  · exact nofun
  · split
    · exact nofun
    · split <;> exact nofun

theorem truth_explains : Explains truth := fun v => by
  cases v with
  | bool b => exact nofun
  | text s =>
    rw [truth]
    split <;> exact nofun
  | int n => exact truthOfInt_ne n
  | float x =>
    rw [truth]
    split
    · split
      · exact truthOfInt_ne _
      · exact nofun
    · exact nofun
  | _ => exact nofun

theorem optional_explains {α : Type} {read : FieldReader α} (h : Explains read) :
    Explains (optional read) := fun v => by
  cases v with
  | nothing => exact nofun
  | _ => exact map_ne (h _) _

theorem items_ne {α : Type} {read : FieldReader α} (h : Explains read) (index : Nat)
    (vs : List Value) : items read index vs ≠ .error [] := by
  induction vs generalizing index with
  | nil => exact nofun
  | cons v rest ih =>
    have hhere := h v
    have hmore := ih (index + 1)
    rw [items]
    cases hread : read v <;> cases hrest : items read (index + 1) rest <;>
      simp_all

theorem tuple_explains {α : Type} {read : FieldReader α} (h : Explains read) :
    Explains (tuple read) := fun v => by
  cases v with
  | tuple vs | list vs => exact items_ne h 0 vs
  | _ => exact nofun

theorem entries_ne (es : List (Value × Value)) : entries es ≠ .error [] := by
  induction es with
  | nil => exact nofun
  | cons e rest ih =>
    obtain ⟨k, v⟩ := e
    have hhere := text_explains k
    rw [entries]
    cases hread : text k <;> cases hrest : entries rest <;> simp_all

theorem map_explains : Explains map := fun v => by
  cases v with
  | map es => exact map_ne (entries_ne es) _
  | _ => exact nofun

end FieldReader

/-! ### The laws of records -/

section Lawful

variable {φ σ : Type} {m : RecordModel φ σ}

/-- A field that is read by a reader obeys the laws if the reader says why it rejects a value, and
what it reads goes to this field. -/
theorem RecordModel.FieldLaw.of_read {f : φ} {v : Value} {α : Type}
    {x : Except (List Rejection) α} (hsome : x ≠ .error []) (put : σ → α → σ) (shown : α → Value)
    (hfield : ∀ s, m.withField s v f = x.map (put s))
    (hvalue : ∀ s a, m.value (put s a) f = shown a)
    (hothers : ∀ s a g, g ≠ f → m.value (put s a) g = m.value s g) : m.FieldLaw f v := by
  cases x with
  | ok a => exact .taken (put · a) (shown a) hfield (hvalue · a) (hothers · a)
  | error rejections =>
    exact .refused rejections (fun h => hsome (congrArg Except.error h)) hfield

theorem RecordModel.name_injective_of_nodup (hcomplete : ∀ f, f ∈ m.fields)
    (hnodup : (m.fields.map m.name).Nodup) : Function.Injective m.name := fun f g h =>
  List.inj_on_of_nodup_map hnodup (hcomplete f) (hcomplete g) h

end Lawful

/-! ### The settings of a registry -/

namespace Settings

open FieldReader

/-- How the settings are read. -/
def recordModel : RecordModel SettingsField Settings where
  fields := SettingsField.all
  name := SettingsField.name
  initial := {}
  withField := withField
  value := value

theorem recordModel_lawful : recordModel.Lawful where
  nodup := by decide
  complete f := by cases f <;> decide
  name_injective := RecordModel.name_injective_of_nodup
    (fun f => by cases f <;> decide) (by decide)
  field f v := by
    have hhook := optional_explains callable_explains v
    cases f
    case' caseSensitive =>
      refine .of_read (truth_explains v) _ .bool (fun _ => rfl) (fun _ _ => rfl) ?_
    case' endOfArgs =>
      refine .of_read (text_explains v) _ .text (fun _ => rfl) (fun _ _ => rfl) ?_
    case' cmdEnv =>
      refine .of_read (optional_explains text_explains v) _ (fun a => (a.map .text).getD .nothing)
        (fun _ => rfl) (fun _ _ => rfl) ?_
    case' globalOptions =>
      refine .of_read (map_explains v) _
        (fun a => ({ globalOptions := a } : Settings).value .globalOptions) (fun _ => rfl)
        (fun _ _ => rfl) ?_
    case' fileParse | lineParse | cmdParse | argParse | error =>
      refine .of_read hhook _ hookValue (fun _ => rfl) (fun _ _ => rfl) ?_
    -- what is left of each field is that it keeps the values of the others
    all_goals
      rintro s a (_ | _) hg <;> first | rfl | exact absurd rfl hg

/-- A table of settings under the names of the fields. -/
def named (t : Table SettingsField Value) : Table String Value :=
  ⟨t.entries.map fun (f, v) => (f.name, v)⟩

end Settings

/-! ### The specification of a variable -/

namespace VariableSpec

open FieldReader

/-- One of the two forms of triggers, with the rejections of both if a value has neither. -/
def eitherForm :
    Except (List Rejection) (List String) → Except (List Rejection) Bool →
      Except (List Rejection) Triggers
  | .ok ts, _ => .ok (.tokens ts)
  | .error _, .ok on => .ok (.generated on)
  | .error here, .error more =>
    .error (here.map (Rejection.under (.key "tuple[str, ...]")) ++
      more.map (Rejection.under (.key "bool")))

/-- Triggers as texts or as a truth value. -/
def readBoth : FieldReader Triggers
  | .bool b => .ok (.generated b)
  | .int n => .ok (.generated (n != 0))
  | v => eitherForm (readTexts v) (truth v)

/-- A specification with one field read from a value. -/
def withField (spec : VariableSpec) (v : Value) :
    VariableField → Except (List Rejection) VariableSpec
  | .default => .ok { spec with default := v }
  | .argumentRequired => (readRequired v).map fun x => { spec with argumentRequired := x }
  | .expand => (truth v).map fun x => { spec with expand := x }
  | .validator => .ok { spec with validator := v }
  | .onChange => (optional callable v).map fun x => { spec with onChange := x }
  | .aliases => (readTexts v).map fun x => { spec with aliases := x }
  | .triggers => (readBoth v).map fun x => { spec with triggers := x }

/-- How a specification is read. -/
def recordModel : RecordModel VariableField VariableSpec where
  fields := VariableField.all
  name := VariableField.name
  initial := {}
  withField := withField
  value := value

theorem readRequired_explains : Explains readRequired := fun v => by
  unfold readRequired
  split
  · exact nofun
  · exact nofun
  · exact truth_explains v

theorem readTexts_explains : Explains readTexts := fun v => by
  unfold readTexts
  split
  · exact nofun
  · exact nofun
  · exact tuple_explains text_explains v

theorem eitherForm_ne {texts : Except (List Rejection) (List String)} (h : texts ≠ .error [])
    (on : Except (List Rejection) Bool) : eitherForm texts on ≠ .error [] := by
  cases texts with
  | ok ts => exact nofun
  | error here =>
    cases on with
    | ok on => exact nofun
    | error more =>
      have hsome : here ≠ [] := fun heq => h (congrArg Except.error heq)
      simp [eitherForm, hsome]

theorem readBoth_explains : Explains readBoth := fun v => by
  unfold readBoth
  split
  · exact nofun
  · exact nofun
  · exact eitherForm_ne (readTexts_explains v) _

theorem recordModel_lawful : recordModel.Lawful where
  nodup := by decide
  complete f := by cases f <;> decide
  name_injective := RecordModel.name_injective_of_nodup
    (fun f => by cases f <;> decide) (by decide)
  field f v := by
    cases f
    case default =>
      refine .taken (fun s => { s with default := v }) v (fun _ => rfl) (fun _ => rfl) ?_
      rintro s (_ | _) hg <;> first | rfl | exact absurd rfl hg
    case validator =>
      refine .taken (fun s => { s with validator := v }) v (fun _ => rfl) (fun _ => rfl) ?_
      rintro s (_ | _) hg <;> first | rfl | exact absurd rfl hg
    case' argumentRequired =>
      refine .of_read (readRequired_explains v) _ .bool (fun _ => rfl) (fun _ _ => rfl) ?_
    case' expand =>
      refine .of_read (truth_explains v) _ .bool (fun _ => rfl) (fun _ _ => rfl) ?_
    case' onChange =>
      refine .of_read (optional_explains callable_explains v) _
        (fun a => (a.map .callable).getD .nothing) (fun _ => rfl) (fun _ _ => rfl) ?_
    case' aliases =>
      refine .of_read (readTexts_explains v) _ (fun ts => .tuple (ts.map .text)) (fun _ => rfl)
        (fun _ _ => rfl) ?_
    case' triggers =>
      refine .of_read (readBoth_explains v) _
        (fun a => ({ triggers := a } : VariableSpec).value .triggers) (fun _ => rfl)
        (fun _ _ => rfl) ?_
    -- what is left of each field is that it keeps the values of the others
    all_goals
      rintro s a (_ | _) hg <;> first | rfl | exact absurd rfl hg

end VariableSpec

/-- The aliases have two elements that are no texts, and the triggers have neither form: five
rejections, and two problems. -/
example :
    let t := Table.ofList [(VariableField.triggers, Value.list [.int 1, .nothing]),
      (.aliases, .list [.text "a", .int 2, .bool true]), (.expand, .text "off")]
    (match VariableSpec.recordModel.read t with
      | .error rejections => rejections.length
      | .ok _ => 0) = 5 ∧
    (VariableSpec.recordModel.build t).toOption.map (fun built =>
      (built.1.expand, built.1.aliases, built.2.length)) = some (false, [], 2) := by
  decide +kernel

end ConfigVars
