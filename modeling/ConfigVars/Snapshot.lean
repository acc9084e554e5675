import ConfigVars.Options.NumberField
import ConfigVars.Registry

/-!
# Typed snapshots

A snapshot takes the values of some variables into a record with typed fields (`Registry.snapshot`).
A field finds its variable by its name behind a prefix, as every name is found.  A variable without
a value leaves the field at its default, and a field without a default needs one.
-/

namespace ConfigVars

/-- The type of a field. -/
inductive FieldType where
  | text
  | whole
  | decimal
  | truth
  | any
  | texts
  /-- A type that allows for no value at all. -/
  | optional (type : FieldType)
  deriving DecidableEq, Repr

/-- Reads the value of a field of a type. -/
def FieldType.read : FieldType → FieldReader Value
  | .text => fun v => (FieldReader.text v).map .text
  | .whole => fun v => (FieldReader.whole v).map .int
  | .decimal => fun v => (FieldReader.decimal v).map .float
  | .truth => fun v => (FieldReader.truth v).map .bool
  | .any => fun v => .ok v
  | .texts => fun v => (FieldReader.list FieldReader.text v).map fun ts => .list (ts.map .text)
  | .optional type => fun
    | .nothing => .ok .nothing
    | v => type.read v

/-- A field of a snapshot. -/
structure SnapshotField where
  name : String
  type : FieldType
  default : Option Value := none

namespace SnapshotField

/-- The name of the variable of a field. -/
def variableName (marker : String) (f : SnapshotField) : String :=
  if marker.isEmpty then f.name else marker ++ "_" ++ f.name

/-- The value of a field in a registry. -/
def read (r : Registry) (marker : String) (f : SnapshotField) : Except (List Rejection) Value :=
  match r.value? (f.variableName marker), f.default with
  | some v, _ => f.type.read v
  | none, some v => .ok v
  | none, none => FieldReader.reject "missing" "Field required"

end SnapshotField

/-- The fields of a snapshot with their values, or everything that is rejected. -/
def Registry.snapshot (r : Registry) (marker : String) :
    List SnapshotField → Except (List Rejection) (List (String × Value))
  | [] => .ok []
  | f :: rest =>
    match f.read r marker, r.snapshot marker rest with
    | .ok v, .ok others => .ok ((f.name, v) :: others)
    | .ok _, .error more => .error more
    | .error here, .ok _ => .error (here.map (Rejection.under (.key f.name)))
    | .error here, .error more => .error (here.map (Rejection.under (.key f.name)) ++ more)

end ConfigVars
