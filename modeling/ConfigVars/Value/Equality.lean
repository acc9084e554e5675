import ConfigVars.Value

/-!
# Equal values

Two values are equal (`Value.equals`) if they are the same number, whatever their kinds, or the same
text, or containers of one kind with equal contents; maps are compared without regard to order.
Scripts are equal if their names are.  `Value.same` is the strict comparison, by which a number is
no truth value and a map keeps its order.
-/

namespace ConfigVars

/-- The integer that a truth value counts as. -/
def bit (b : Bool) : Int := if b then 1 else 0

namespace Value

mutual

/-- Whether two values are equal. -/
def equals : Value → Value → Bool
  | .nothing, .nothing => true
  | .undefined, .undefined => true
  | .bool a, .bool b => a == b
  | .bool a, .int b => bit a == b
  | .bool a, .float b => b.equalsInt (bit a)
  | .int a, .bool b => a == bit b
  | .int a, .int b => a == b
  | .int a, .float b => b.equalsInt a
  | .float a, .bool b => a.equalsInt (bit b)
  | .float a, .int b => a.equalsInt b
  | .float a, .float b => a.equals b
  | .text a, .text b => a == b
  | .list a, .list b => equalItems a b
  | .tuple a, .tuple b => equalItems a b
  | .map a, .map b => a.length == b.length && includes a b
  | .pattern a, .pattern b => a == b
  | .callable (.script a), .callable (.script b) => a.id == b.id
  | _, _ => false

/-- Whether two lists have equal values in the same order. -/
def equalItems : List Value → List Value → Bool
  | [], [] => true
  | a :: as, b :: bs => equals a b && equalItems as bs
  | _, _ => false

/-- Whether every entry of one map is in another. -/
def includes : List (Value × Value) → List (Value × Value) → Bool
  | [], _ => true
  | (k, v) :: rest, b => (b.any fun (k', v') => equals k k' && equals v v') && includes rest b

end

instance : BEq Value := ⟨equals⟩

mutual

/-- Whether two values are the same, kind by kind. -/
def same : Value → Value → Bool
  | .nothing, .nothing => true
  | .undefined, .undefined => true
  | .bool a, .bool b => a == b
  | .int a, .int b => a == b
  | .float a, .float b => decide (a = b)
  | .text a, .text b => a == b
  | .list a, .list b => sameItems a b
  | .tuple a, .tuple b => sameItems a b
  | .map a, .map b => sameEntries a b
  | .callable (.script a), .callable (.script b) => a.id == b.id
  | _, _ => false

/-- Whether two lists have the same values. -/
def sameItems : List Value → List Value → Bool
  | [], [] => true
  | a :: as, b :: bs => same a b && sameItems as bs
  | _, _ => false

/-- Whether two maps have the same entries in the same order. -/
def sameEntries : List (Value × Value) → List (Value × Value) → Bool
  | [], [] => true
  | (k, v) :: as, (k', v') :: bs => same k k' && same v v' && sameEntries as bs
  | _, _ => false

end

/-- Only a text is the same as a text. -/
theorem eq_of_same_text {v : Value} {s : String} (h : same v (.text s) = true) : v = .text s := by
  cases v with
  | text t =>
    have heq : (t == s) = true := h
    rw [eq_of_beq heq]
  | callable c => cases c <;> cases h
  | _ => cases h

/-- Only a text that is there is the same as a text. -/
theorem eq_text_of_any_same {v? : Option Value} {s : String}
    (h : v?.any (same · (.text s)) = true) : v? = some (.text s) := by
  obtain ⟨v, hv, hsame⟩ := (Option.any_eq_true _ _).mp h
  rw [hv, eq_of_same_text hsame]

end Value

end ConfigVars
