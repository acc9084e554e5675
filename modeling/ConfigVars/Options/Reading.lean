import ConfigVars.Failure
import ConfigVars.Number.Numeral
import ConfigVars.Value.Equality

/-!
# Reading the fields of a record

A field of a record takes values of its type, and others that can be read as one: a truth value
may be spelled by a word or a number, and a list may stand for a tuple.  A reader of a field
(`FieldReader`) answers with what it has read or with everything that it rejects.
-/

namespace ConfigVars

/-- Reads the value of a field. -/
abbrev FieldReader (α : Type) := Value → Except (List Rejection) α

namespace FieldReader

/-- The one rejection of a value. -/
def reject {α : Type} (kind message : String) : Except (List Rejection) α :=
  .error [{ kind, message }]

/-- The words for a truth value, in small letters. -/
def truthWords : List (String × Bool) :=
  [("0", false), ("off", false), ("f", false), ("false", false), ("n", false), ("no", false),
   ("1", true), ("on", true), ("t", true), ("true", true), ("y", true), ("yes", true)]

/-- Whether an integer fits into 64 bits. -/
def isShort (n : Int) : Bool := -(Nat.pow 2 63 : Nat) ≤ n && n < (Nat.pow 2 63 : Nat)

/-- Whether an integer that is written as a decimal is taken: it lies between the bounds of 64
bits, and is neither of them. -/
def isInnerShort (n : Int) : Bool := -(Nat.pow 2 63 : Nat) < n && n < (Nat.pow 2 63 : Nat)

/-- A text that spells no truth value. -/
def unclearTruth : Except (List Rejection) Bool :=
  reject "bool_parsing" "Input should be a valid boolean, unable to interpret input"

/-- A value that is none and spells none. -/
def noTruth : Except (List Rejection) Bool := reject "bool_type" "Input should be a valid boolean"

/-- The truth value of an integer. -/
def truthOfInt (n : Int) : Except (List Rejection) Bool :=
  if n = 0 then .ok false
  else if n = 1 then .ok true
  else if isShort n then unclearTruth
  else noTruth

/-- A truth value, or a word or a number for one. -/
def truth : FieldReader Bool
  | .bool b => .ok b
  | .text s =>
    match truthWords.lookup (String.ofList (s.toList.map Numeral.plainLower)) with
    | some b => .ok b
    | none => unclearTruth
  | .int n => truthOfInt n
  | .float x =>
    match x.truncate? with
    | some n => if x.isIntegral && isInnerShort n then truthOfInt n else noTruth
    | none => noTruth
  | _ => noTruth

/-- A text. -/
def text : FieldReader String
  | .text s => .ok s
  | _ => reject "string_type" "Input should be a valid string"

/-- A value that may be missing. -/
def optional {α : Type} (read : FieldReader α) : FieldReader (Option α)
  | .nothing => .ok none
  | v => (read v).map some

/-- A callable. -/
def callable : FieldReader Callable
  | .callable c => .ok c
  | _ => reject "callable_type" "Input should be callable"

/-- The values of a list, each read by itself; `index` is the number of the first. -/
def items {α : Type} (read : FieldReader α) (index : Nat) :
    List Value → Except (List Rejection) (List α)
  | [] => .ok []
  | v :: rest =>
    match read v, items read (index + 1) rest with
    | .ok x, .ok xs => .ok (x :: xs)
    | .ok _, .error more => .error more
    | .error here, .ok _ => .error (here.map (Rejection.under (.index index)))
    | .error here, .error more => .error (here.map (Rejection.under (.index index)) ++ more)

/-- A tuple, or a list that stands for it. -/
def tuple {α : Type} (read : FieldReader α) : FieldReader (List α)
  | .tuple vs | .list vs => items read 0 vs
  | _ => reject "tuple_type" "Input should be a valid tuple"

/-- A list, or a tuple that stands for it. -/
def list {α : Type} (read : FieldReader α) : FieldReader (List α)
  | .tuple vs | .list vs => items read 0 vs
  | _ => reject "list_type" "Input should be a valid list"

/-- The step to an entry of a map: an integer counts as an index, and so does a truth value. -/
def entryStep : Value → Step
  | .bool b => .index (bit b)
  | .int n => if isShort n then .index n else .key (toString n)
  | k => .key k.toText

/-- The entries of a map whose keys have to be texts. -/
def entries : List (Value × Value) → Except (List Rejection) (List (String × Value))
  | [] => .ok []
  | (k, v) :: rest =>
    match text k, entries rest with
    | .ok key, .ok others => .ok ((key, v) :: others)
    | .ok _, .error more => .error more
    | .error here, others =>
      let here := here.map fun r => (r.under (.key "[key]")).under (entryStep k)
      match others with
      | .ok _ => .error here
      | .error more => .error (here ++ more)

/-- A map from texts to values. -/
def map : FieldReader (Table String Value)
  | .map es => (entries es).map Table.ofList
  | _ => reject "dict_type" "Input should be a valid dictionary"

/-- The message of what is rejected first. -/
def firstMessage (rejections : List Rejection) : String :=
  (rejections.head?.map Rejection.message).getD ""

end FieldReader

end ConfigVars
